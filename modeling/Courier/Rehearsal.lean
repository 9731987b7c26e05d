import Courier.Relay
import Courier.Shutdown
import Courier.Timeline

/-!
A relay before a scripted ledger, in virtual time of whole milliseconds. The script lists the
answers to submissions and queries; an answer may take its time and may trigger shutdown.
-/
namespace Courier

structure Scripted (α : Type) where
  response : α
  /-- Milliseconds that the answer takes. -/
  latency : Nat
  /-- Whether shutdown is triggered just before the answer. -/
  triggers : Bool
deriving Repr

inductive Sleeper where
  /-- Sleeps take their time. -/
  | clock
  /-- Sleeps end at once. One of them may trigger shutdown, and may then never end by itself. -/
  | instant (triggerAt? : Option Nat) (hangs : Bool)
deriving Repr

structure Rehearsal where
  now : Nat
  submissions : List (Scripted (Except TransportError Receipt))
  outcomes : List (Scripted (Except TransportError OutcomeStatus))
  /-- Outcomes for single receipts, which come before the others. -/
  outcomesOf : List (String × List (Scripted (Except TransportError OutcomeStatus)))
  sleeper : Sleeper
  /-- How often the relay has slept. -/
  sleeps : Nat
  board : Switchboard
  /-- When shutdown is triggered from outside. -/
  alarm? : Option Nat
  /-- What happened and when, the latest first. -/
  events : List (Nat × String)
  /-- What was counted, the latest first. -/
  counts : List Counter

namespace Rehearsal

def ownerName : String := "owner"

def firstOwnerName : String := "first"

def signalName : String := "relay"

/-- A fresh coordinator, with a signal of it for the relay. -/
def renewal : List ShutdownStep :=
  [.create ownerName, .subscribe signalName ownerName]

def begin (sleeper : Sleeper) (alarm? : Option Nat)
    (submissions : List (Scripted (Except TransportError Receipt)))
    (outcomes : List (Scripted (Except TransportError OutcomeStatus)))
    (outcomesOf : List (String × List (Scripted (Except TransportError OutcomeStatus)))) :
    Rehearsal where
  now := 0
  submissions := submissions
  outcomes := outcomes
  outcomesOf := outcomesOf
  sleeper := sleeper
  sleeps := 0
  board := Switchboard.empty.steps (renewal ++ [.cloneOwner firstOwnerName ownerName])
  alarm? := alarm?
  events := []
  counts := []

def onBoard (r : Rehearsal) (steps : List ShutdownStep) : Rehearsal :=
  { r with board := r.board.steps steps }

def trigger (r : Rehearsal) : Rehearsal :=
  r.onBoard [.trigger ownerName]

def renew (r : Rehearsal) : Rehearsal :=
  r.onBoard renewal

def neverShut (r : Rehearsal) : Rehearsal :=
  r.onBoard [.never signalName]

def isRaised (r : Rehearsal) : Bool :=
  r.board.signalTriggered signalName

def note (r : Rehearsal) (text : String) : Rehearsal :=
  { r with events := (r.now, text) :: r.events }

def clearNotes (r : Rehearsal) : Rehearsal :=
  { r with events := [], counts := [] }

/-- The answer to a submission when the script has none left. -/
def refused : Scripted (Except TransportError Receipt) :=
  ⟨.error (.http "connection refused"), 0, false⟩

/-- The answer to a query when the script has none left. -/
def stillPending : Scripted (Except TransportError OutcomeStatus) :=
  ⟨.ok .pending, 0, false⟩

def takeSubmission (r : Rehearsal) :
    Scripted (Except TransportError Receipt) × Rehearsal :=
  match r.submissions with
  | [] => (refused, r)
  | a :: rest => (a, { r with submissions := rest })

/-- Takes the first item of the list under a name, or none from an empty one; nothing when there is
no such list. -/
def takeUnder? {α : Type} (name : String) :
    List (String × List α) → Option (Option α × List (String × List α))
  | [] => none
  | e :: rest =>
    if e.1 = name then some (e.2.head?, (e.1, e.2.tail) :: rest)
    else (takeUnder? name rest).map fun (a, rest) => (a, e :: rest)

def takeOutcome (r : Rehearsal) (receipt : Receipt) :
    Scripted (Except TransportError OutcomeStatus) × Rehearsal :=
  match takeUnder? receipt.id r.outcomesOf with
  | some (a, rest) => (a.getD stillPending, { r with outcomesOf := rest })
  | none =>
    match r.outcomes with
    | [] => (stillPending, r)
    | a :: rest => (a, { r with outcomes := rest })

def deliver {α : Type} (a : Scripted α) (r : Rehearsal) : α × Rehearsal :=
  (a.response, if a.triggers then r.trigger else r)

def prospect {α : Type} (a : Scripted α) (r : Rehearsal) :
    Timeline.Prospect Rehearsal α × Rehearsal :=
  if a.latency = 0 then
    let (response, r) := deliver a r
    (.now response, r)
  else
    let due := r.now + a.latency
    (.later (some due) fun r => if due ≤ r.now then some (deliver a r) else none, r)

/-- A sleep that ends at its time, or before that by shutdown. -/
def sleepUntil (due? : Option Nat) (r : Rehearsal) : Option (Relay.Waking × Rehearsal) :=
  if r.isRaised then some (.cut, r)
  else if due?.any (· ≤ r.now) then some (.elapsed, r)
  else none

def poseSleep (time : Duration) (r : Rehearsal) :
    Timeline.Prospect Rehearsal Relay.Waking × Rehearsal :=
  let r := { r with sleeps := r.sleeps + 1 }
  match r.sleeper with
  | .clock =>
    if time.ceilMilliseconds = 0 then (.now .elapsed, r)
    else
      let due? := some (r.now + time.ceilMilliseconds)
      (.later due? (sleepUntil due?), r)
  | .instant triggerAt? hangs =>
    let r := r.note ("wait " ++ time.toText)
    if triggerAt? = some r.sleeps then
      if hangs then (.later none (sleepUntil none), r.trigger) else (.now .elapsed, r.trigger)
    else (.now .elapsed, r)

def pose : (q : Relay.Question) → Rehearsal →
    Timeline.Prospect Rehearsal (Relay.Answer q) × Rehearsal
  | .submit request, r =>
    let (a, r) := (r.note ("submit " ++ request.entryPoint ++ " " ++
      toString request.payment)).takeSubmission
    prospect a r
  | .outcome receipt, r =>
    let (a, r) := (r.note ("poll " ++ receipt.id)).takeOutcome receipt
    prospect a r
  | .draw, r => (.now (0 : UInt64), r)
  | .raised, r => (.now r.isRaised, r)
  | .sleep time, r => poseSleep time r
  | .count c, r => (.now (), { r with counts := c :: r.counts })

/-- Lets the time pass; shutdown from outside comes at its moment. -/
def passTo (t : Nat) (r : Rehearsal) : Rehearsal :=
  let r := { r with now := t }
  if r.alarm?.any (· ≤ t) then
    { r.onBoard [.trigger firstOwnerName] with alarm? := none }
  else r

def surroundings : Timeline.Surroundings Relay.Question Relay.Answer Rehearsal where
  pose := pose
  now := Rehearsal.now
  alarm? := Rehearsal.alarm?
  passTo := passTo

/-- How often a dialogue under these policies can wait. -/
def pauses (p : RelayPolicies) : Nat :=
  2 * ((AttemptBudget.ofLimit p.submit.maxAttempts).limit.toNat +
    (AttemptBudget.ofLimit p.poll.maxPolls).limit.toNat)

/-- Holds dialogues side by side. Each pause costs a round in which time passes and one in which
the dialogue goes on; one round more may pass until shutdown comes, and in the last one nothing
happens. -/
def perform {α : Type} (p : RelayPolicies) (dialogues : List (Relaying α)) (r : Rehearsal) :
    List (Option α) × Rehearsal :=
  Timeline.play surroundings (2 * pauses p * dialogues.length + 3) dialogues r

end Rehearsal
end Courier
