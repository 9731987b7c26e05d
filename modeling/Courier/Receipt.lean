import Courier.Duration
import Courier.Json.Basic
import Courier.Text.Quoted

/-!
What becomes of a request: a receipt when it is accepted, then an outcome, and the errors on the
way there.
-/
namespace Courier

/-- The identifier that a node gives to an accepted request. -/
structure Receipt where
  id : String
deriving DecidableEq, Repr

/-- The final word of the ledger on a receipt. -/
inductive Verdict where
  | success (payload : Json)
  | failure (message : String)
deriving Repr

/-- The answer to one question for the outcome. -/
inductive OutcomeStatus where
  | pending
  | executed (verdict : Verdict)
deriving Repr

/-- An accepted request that was executed. -/
structure Execution where
  receipt : Receipt
  payload : Json
deriving Repr

/-- Why a single exchange with a node failed. -/
inductive TransportError where
  /-- The connection or the status of the reply. -/
  | http (detail : String)
  /-- The node answered with an error. -/
  | rpc (code : Int) (message : String)
  | timeout (limit : Duration)
  /-- The reply is not of the expected form. -/
  | malformed (detail : String)
  /-- No address gave a result; the text is that of the last error. -/
  | allEndpointsFailed (last : String)
  | chainMismatch (expected actual : String)
deriving DecidableEq, Repr

namespace TransportError

def message : TransportError → String
  | http detail => "HTTP error: " ++ detail
  | rpc code message => "RPC error " ++ toString code ++ ": " ++ message
  | timeout limit => "RPC timeout after " ++ limit.toText
  | malformed detail => "Malformed response: " ++ detail
  | allEndpointsFailed last => "All RPC endpoints failed: " ++ last
  | chainMismatch expected actual =>
    "Chain mismatch: expected " ++ expected ++ ", got " ++ actual

def report : TransportError → String
  | http detail => "Http(" ++ Text.quote detail ++ ")"
  | rpc code message =>
    "Rpc \x7b code: " ++ toString code ++ ", message: " ++ Text.quote message ++ " \x7d"
  | timeout limit => "Timeout(" ++ limit.toText ++ ")"
  | malformed detail => "Decode(" ++ Text.quote detail ++ ")"
  | allEndpointsFailed last => "AllEndpointsFailed(" ++ Text.quote last ++ ")"
  | chainMismatch expected actual =>
    "ChainMismatch \x7b expected: " ++ Text.quote expected ++ ", actual: " ++ Text.quote actual ++
      " \x7d"

end TransportError

/-- Why a request was not delivered or not confirmed. -/
inductive DeliveryError where
  /-- No attempt was accepted; the source is the error of the last one. -/
  | remote (attempts : UInt32) (source : TransportError)
  /-- No outcome within the budget of polls. -/
  | timeout (receipt : Receipt) (polls : UInt32)
  /-- The ledger ran the request and it failed. -/
  | execution (message : String)
  /-- Shutdown came during a wait. -/
  | cancelled
deriving DecidableEq, Repr

namespace DeliveryError

def message : DeliveryError → String
  | remote attempts source =>
    "Submission failed after " ++ toString attempts ++ " attempts: " ++ source.message
  | timeout receipt polls =>
    "Timeout after " ++ toString polls ++ " polls waiting for " ++ receipt.id
  | execution message => "Contract execution: " ++ message
  | cancelled => "Cancelled"

def source? : DeliveryError → Option TransportError
  | remote _ source => some source
  | _ => none

/-- The error with its kind, as the command line reports it. -/
def report : DeliveryError → String
  | remote attempts source =>
    "Remote \x7b attempts: " ++ toString attempts ++ ", source: " ++ source.report ++ " \x7d"
  | timeout receipt polls =>
    "Timeout \x7b receipt: Receipt(" ++ Text.quote receipt.id ++ "), polls: " ++
      toString polls ++ " \x7d"
  | execution message => "RemoteExecution(" ++ Text.quote message ++ ")"
  | cancelled => "Cancelled"

end DeliveryError
end Courier
