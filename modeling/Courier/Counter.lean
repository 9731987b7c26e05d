/-! The events that a relay counts, and the names under which the counts are known. -/
namespace Courier

inductive PollStatus where
  | executed
  | pending
  | error
deriving DecidableEq, Repr

inductive OutcomeKind where
  | success
  | failure
  | timeout
deriving DecidableEq, Repr

inductive Counter where
  | submission (accepted : Bool)
  | submitRetry
  | poll (status : PollStatus)
  | outcome (kind : OutcomeKind)
deriving DecidableEq, Repr

namespace Counter

def name : Counter → String
  | submission _ => "relay_submissions_total"
  | submitRetry => "relay_submit_retries_total"
  | poll _ => "relay_polls_total"
  | outcome _ => "relay_outcomes_total"

/-- The label that tells counters of one name apart, and its value. -/
def label? : Counter → Option (String × String)
  | submission accepted => some ("result", if accepted then "accepted" else "rejected")
  | submitRetry => none
  | poll .executed => some ("status", "executed")
  | poll .pending => some ("status", "pending")
  | poll .error => some ("status", "error")
  | outcome .success => some ("outcome", "success")
  | outcome .failure => some ("outcome", "failure")
  | outcome .timeout => some ("outcome", "timeout")

/-- The name with its label, if it has one. -/
def title (c : Counter) : String :=
  match c.label? with
  | none => c.name
  | some (label, value) => c.name ++ "\x7b" ++ label ++ "=" ++ value ++ "\x7d"

def tally (counted : List Counter) : List (Counter × Nat) :=
  counted.eraseDups.map fun c => (c, counted.count c)

end Counter
end Courier
