import Courier.Receipt

/-!
What nodes tell about requests and stored values. Older nodes list execution results; newer ones
have a single one, whose version is its name.
-/
namespace Courier.Node

/-- A verdict in the form of older nodes. -/
def verdictOf (v : Json) : Except TransportError Verdict :=
  match v.member? "Success", v.member? "Failure" with
  | some payload, _ => .ok (.success payload)
  | none, some failure =>
    .ok (.failure ((failure.get "error_message").text?.getD "unknown error"))
  | none, none => .error (.malformed "execution result is neither Success nor Failure")

/-- A verdict in the form of newer nodes: a failure is told by its message. -/
def messageVerdict (v : Json) : Verdict :=
  match (v.get "error_message").text? with
  | some message => .failure message
  | none => .success v

/-- The outcome in an execution result that names its version. -/
def versionedOutcome (v : Json) : Except TransportError OutcomeStatus :=
  match v, v.member? "Version2", v.member? "Version1" with
  | .null, _, _ => .ok .pending
  | _, some v2, _ => .ok (.executed (messageVerdict v2))
  | _, none, some v1 => (verdictOf v1).map .executed
  | _, none, none => .error (.malformed "unknown execution_result version")

/-- The outcome in a list of execution results, of which the first counts. -/
def listedOutcome : Json → Except TransportError OutcomeStatus
  | .array [] => .ok .pending
  | .array (first :: _) => (verdictOf (first.get "result")).map .executed
  | _ => .error (.malformed "execution_results is not an array")

def outcomeOf (v : Json) : Except TransportError OutcomeStatus :=
  match v.member? "execution_results", v.member? "execution_info" with
  | some results, _ => listedOutcome results
  | none, some info => versionedOutcome (info.get "execution_result")
  | none, none => .error (.malformed "neither execution_results nor execution_info present")

/-- The stored value that a node tells: of a typed value its readable form, else the whole. -/
def storedValueOf (v : Json) : Except TransportError Json :=
  match v.member? "stored_value" with
  | none => .error (.malformed "missing stored_value")
  | some stored =>
    match stored.member? "CLValue" with
    | none => .ok stored
    | some typed =>
      (typed.member? "parsed").elim (.error (.malformed "CLValue without parsed form")) .ok

end Courier.Node
