import Courier.Config.Settings
import Courier.Dialogue
import Courier.Node.Outcome
import Courier.Node.Reply
import Courier.Node.Status
import Courier.Receipt
import Courier.Request
import Courier.Url.Reader

/-!
A node behind one primary address and some failover addresses. Questions go to the addresses in
their order until one answers; submissions go to the primary alone. Every exchange has a deadline.
Time passes in whole milliseconds here: a deadline inside a millisecond falls on its end. What is
ready when the deadline falls still counts.
-/
namespace Courier

/-- A value and the number of milliseconds after which it is there. -/
structure Delayed (α : Type) where
  after : Nat
  value : α
deriving Repr

/-- The value if it is there by the limit, else the error that it took too long; and when. -/
def Delayed.within {α : Type} (limit : Duration) (x : Delayed (Except TransportError α)) :
    Delayed (Except TransportError α) :=
  if x.after ≤ limit.ceilMilliseconds then x
  else { after := limit.ceilMilliseconds, value := .error (.timeout limit) }

structure Node where
  primary : Url
  failovers : List Url
  chainName : String
  deadline : Duration
deriving Repr

namespace Node

structure Post where
  url : Url
  method : String
  params : Json
deriving Repr

/-- What comes of a request in the end. -/
inductive Exchange where
  /-- No connection, or one that closed without a reply. -/
  | failed
  | reply (status : Nat) (body : List UInt8)
deriving Repr, Inhabited

/-- A dialogue with addresses. The answer to a request says when it is there. -/
abbrev Posting (α : Type) : Type :=
  Dialogue Post (fun _ => Delayed Exchange) α

/-- The node of the settings. Failover addresses that cannot be read are left out. -/
def ofSettings (s : NodeSettings) : Except TransportError Node :=
  match Url.ofText s.rpcUrl with
  | .error e => .error (.http ("Invalid RPC URL '" ++ s.rpcUrl ++ "': " ++ e.message))
  | .ok primary => .ok {
      primary := primary
      failovers := s.failoverUrls.filterMap fun text => (Url.ofText text).toOption
      chainName := s.chainName
      deadline := s.rpcTimeout }

/-- All addresses in the order in which they are asked. -/
def endpoints (n : Node) : List Url :=
  n.primary :: n.failovers

def report (n : Node) : String :=
  "JsonRpcTransport \x7b endpoints: " ++ toString n.endpoints.length ++ ", chain_name: " ++
    Text.quote n.chainName ++ ", timeout: " ++ n.deadline.toText ++ " \x7d"

def Exchange.result (url : Url) : Exchange → Except TransportError Json
  | failed =>
    .error (.http ("error sending request for url (" ++ url.withoutCredentials.toText ++ ")"))
  | reply status body =>
    if isSuccess status then
      match Reply.ofBody? body with
      | none => .error (.malformed "error decoding response body")
      | some ⟨_, some (code, message)⟩ => .error (.rpc code message)
      | some ⟨some result, none⟩ => .ok result
      | some ⟨none, none⟩ => .error (.malformed "response has neither result nor error")
    else .error (.http (url.toText ++ " returned status " ++ statusText status))

/-- One request to an address. Some addresses cannot be asked at all. -/
def post (n : Node) (url : Url) (method : String) (params : Json) :
    Posting (Except TransportError Json) :=
  if url.canBeAsked then
    .ask ⟨url, method, params⟩ fun exchange =>
      .done (Delayed.within n.deadline ⟨exchange.after, exchange.value.result url⟩).value
  else
    .done (.error (.http ("builder error for url (" ++ url.withoutCredentials.toText ++ ")")))

/-- Asks the addresses in turn. `last` is the text of the error before. -/
def askEach (n : Node) (method : String) (params : Json) (last : String) :
    List Url → Posting (Except TransportError Json)
  | [] => .done (.error (.allEndpointsFailed last))
  | url :: rest =>
    (n.post url method params).bind fun
      | .ok result => .done (.ok result)
      | .error e => n.askEach method params e.message rest

def query (n : Node) (method : String) (params : Json) : Posting (Except TransportError Json) :=
  n.askEach method params "" n.endpoints

def textMember (name : String) (v : Json) : Except TransportError String :=
  (v.get name).text?.elim (.error (.malformed ("missing " ++ name))) .ok

def reportedChainName (n : Node) : Posting (Except TransportError String) :=
  (n.query "info_get_status" (.object [])).andThen fun status =>
    .done (textMember "chainspec_name" status)

/-- Fails unless the node serves the chain of the settings. -/
def verifyChainName (n : Node) : Posting (Except TransportError Unit) :=
  n.reportedChainName.andThen fun actual =>
    .done (if actual = n.chainName then .ok () else .error (.chainMismatch n.chainName actual))

def isHealthy (n : Node) : Posting Bool :=
  n.reportedChainName.bind fun r => .done r.toBool

def stateRootHash (n : Node) : Posting (Except TransportError String) :=
  (n.query "chain_get_state_root_hash" (.object [])).andThen fun result =>
    .done (textMember "state_root_hash" result)

/-- The value that a contract keeps under a name. -/
def namedKeyValue (n : Node) (contract : ContractHash) (name : String) :
    Posting (Except TransportError Json) :=
  n.stateRootHash.andThen fun root =>
    (n.query "query_global_state" (.object [
      ("state_identifier", .object [("StateRootHash", .string root)]),
      ("key", .string contract.toText),
      ("path", .array [.string name])])).andThen fun result =>
        .done (storedValueOf result)

/-- An item of a dictionary that a contract keeps. -/
def dictionaryItem (n : Node) (contract : ContractHash) (dictionary key : String) :
    Posting (Except TransportError Json) :=
  n.stateRootHash.andThen fun root =>
    (n.query "state_get_dictionary_item" (.object [
      ("state_root_hash", .string root),
      ("dictionary_identifier", .object [
        ("ContractNamedKey", .object [
          ("key", .string contract.toText),
          ("dictionary_name", .string dictionary),
          ("dictionary_item_key", .string key)])])])).andThen fun result =>
        .done (storedValueOf result)

/-- Hands a request to the primary address. -/
def submit (n : Node) (request : Request) : Posting (Except TransportError Receipt) :=
  (n.post n.primary "account_put_deploy"
    (.object [("deploy", request.envelope n.chainName)])).andThen fun result =>
      .done ((textMember "deploy_hash" result).map Receipt.mk)

def outcome (n : Node) (receipt : Receipt) : Posting (Except TransportError OutcomeStatus) :=
  (n.query "info_get_deploy" (.object [("deploy_hash", .string receipt.id)])).andThen fun result =>
    .done (outcomeOf result)

end Node
end Courier
