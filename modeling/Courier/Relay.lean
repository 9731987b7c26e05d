import Courier.AttemptBudget
import Courier.Backoff
import Courier.Counter
import Courier.Dialogue
import Courier.Policy
import Courier.Receipt
import Courier.Request

/-!
Delivery of requests. A submission is repeated until it is accepted or its attempts are used up; an
accepted request is asked for until it is executed or the polls are used up. Shutdown ends both at
their next wait, never in the middle of an exchange with the node.
-/
namespace Courier
namespace Relay

/-- What a relay needs from its surroundings. -/
inductive Question where
  | submit (request : Request)
  | outcome (receipt : Receipt)
  /-- A random word. -/
  | draw
  /-- Whether shutdown has come. -/
  | raised
  | sleep (time : Duration)
  | count (counter : Counter)

inductive Waking where
  | elapsed
  | cut
deriving DecidableEq, Repr

def Answer : Question → Type
  | .submit _ => Except TransportError Receipt
  | .outcome _ => Except TransportError OutcomeStatus
  | .draw => UInt64
  | .raised => Bool
  | .sleep _ => Waking
  | .count _ => Unit

end Relay

abbrev Relaying (α : Type) : Type :=
  Dialogue Relay.Question Relay.Answer α

namespace Relay

def counting {α : Type} (c : Counter) (rest : Relaying α) : Relaying α :=
  .ask (.count c) fun _ => rest

/-- Sleeps, unless shutdown has come or comes before the end. -/
def wait (time : Duration) : Relaying (Except DeliveryError Unit) :=
  .ask .raised fun
    | true => .done (.error .cancelled)
    | false => .ask (.sleep time) fun
      | .elapsed => .done (.ok ())
      | .cut => .done (.error .cancelled)

/-- Submits until an attempt is accepted, shutdown comes, or no attempt is left. The delays are
those of a build that does not check its sums. One that does is the same up to a word drawn for
which `Backoff.delay?` has no delay, and stops there. -/
def callFrom (request : Request) (policy : SubmitPolicy) (budget : AttemptBudget) :
    Relaying (Except DeliveryError Receipt) :=
  .ask (.submit request) fun
    | .ok receipt => counting (.submission true) (.done (.ok receipt))
    | .error e =>
      counting (.submission false)
        (if budget.record.hasRemaining then
          .ask .draw fun word =>
            counting .submitRetry
              ((wait (Backoff.delay policy.retryDelay
                (Backoff.jitter policy.retryDelay policy.jitterRatio word))).andThen
                fun _ => callFrom request policy budget.record)
        else .done (.error (.remote budget.record.used e)))
termination_by budget.limit.toNat - budget.used.toNat
decreasing_by exact AttemptBudget.record_gap_lt ‹_›

def call (request : Request) (policy : SubmitPolicy) : Relaying (Except DeliveryError Receipt) :=
  callFrom request policy (.ofLimit policy.maxAttempts)

/-- What a query found: how it is counted, and the verdict if there is one. -/
def found : Except TransportError OutcomeStatus → PollStatus × Option Verdict
  | .ok (.executed verdict) => (.executed, some verdict)
  | .ok .pending => (.pending, none)
  | .error _ => (.error, none)

/-- Asks for the outcome until it is there, shutdown comes, or no poll is left. A query that fails
counts as one that found nothing. -/
def confirmFrom (receipt : Receipt) (policy : PollPolicy) (budget : AttemptBudget) :
    Relaying (Except DeliveryError Json) :=
  .ask (.outcome receipt) fun reply =>
    counting (.poll (found reply).1)
      (match (found reply).2 with
      | some (.success payload) => counting (.outcome .success) (.done (.ok payload))
      | some (.failure message) =>
        counting (.outcome .failure) (.done (.error (.execution message)))
      | none =>
        if budget.record.hasRemaining then
          (wait policy.pollInterval).andThen fun _ => confirmFrom receipt policy budget.record
        else counting (.outcome .timeout) (.done (.error (.timeout receipt budget.record.used))))
termination_by budget.limit.toNat - budget.used.toNat
decreasing_by exact AttemptBudget.record_gap_lt ‹_›

def confirm (receipt : Receipt) (policy : PollPolicy) : Relaying (Except DeliveryError Json) :=
  confirmFrom receipt policy (.ofLimit policy.maxPolls)

def execute (request : Request) (policies : RelayPolicies) :
    Relaying (Except DeliveryError Execution) :=
  (call request policies.submit).andThen fun receipt =>
    (confirm receipt policies.poll).andThen fun payload => .done (.ok ⟨receipt, payload⟩)

/-- One confirmation a receipt, to be held side by side. -/
def confirmEach (receipts : List Receipt) (policy : PollPolicy) :
    List (Relaying (Except DeliveryError Json)) :=
  receipts.map fun receipt => confirm receipt policy

end Relay
end Courier
