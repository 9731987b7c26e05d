import Courier.Client
import Courier.CommandLine.Command
import Courier.CommandLine.Ending

/-!
What a command does: the dialogues that it holds with the surroundings and the ending that they
lead to. Settings, files and names of contracts are looked up before any dialogue begins.
-/
namespace Courier.CommandLine

/-- A single dialogue, or several that are held side by side. -/
inductive Plan where
  | alone (dialogue : Serving Ending)
  | sideBySide (dialogues : List (Serving (Except DeliveryError Json)))
      (ending : List (Except DeliveryError Json) → Ending)

namespace Plan

/-- Carries out a plan, dialogues that may overlap one after the other. -/
def run {σ : Type} (answer : (q : Client.Question) → σ → Client.Answer q × σ) :
    Plan → σ → Ending × σ
  | alone d, s => d.run answer s
  | sideBySide ds ending, s =>
    let (results, s) := (Dialogue.traverse id ds).run answer s
    (ending results, s)

end Plan

/-- The contract that is meant: listed in the settings under the name that is asked for or else
under the family, or named by its hash. -/
def findContract (c : Config) (family : String) (asked? : Option String) :
    Except Failure ContractHash :=
  match (c.contract? (asked?.getD family)).or asked? with
  | some text => (ContractHash.ofText text).mapError .contract
  | none => .error (.unlistedContract family)

/-- Goes on after a success; an error ends the command. -/
def orFail {ε α : Type} (failure : ε → Failure) (d : Serving (Except ε α))
    (next : α → Serving Ending) : Serving Ending :=
  d.bind fun
    | .ok a => next a
    | .error e => .done (.failed (failure e))

/-- Submits a request and tells its receipt; with its payload if the outcome is waited for. -/
def deliver (c : Config) (n : Node) (request : Request) (waits : Bool) : Serving Ending :=
  let policies := RelayPolicies.ofConfig c
  orFail .delivery (Client.relaying n (Relay.call request policies.submit)) fun receipt =>
    if waits then
      orFail .delivery (Client.relaying n (Relay.confirm receipt policies.poll)) fun payload =>
        .done (.printed (.object [("receipt", .string receipt.id), ("payload", payload)]))
    else .done (.printed (.object [("receipt", .string receipt.id)]))

def checkStatus (c : Config) (n : Node) : Serving Ending :=
  orFail .transport (Client.posting n.reportedChainName) fun chain =>
    .done (.printed (.object [
      ("rpc_url", .string c.node.rpcUrl),
      ("chain_name", .string chain),
      ("expected_chain_name", .string c.node.chainName),
      ("matches", .bool (chain = c.node.chainName))]))

/-- The policy of the settings with what is given in its place. -/
def pollPolicy (c : Config) (maxPolls? : Option UInt32) (intervalMs? : Option UInt64) :
    PollPolicy :=
  let usual := (RelayPolicies.ofConfig c).poll
  ⟨maxPolls?.getD usual.maxPolls, intervalMs?.elim usual.pollInterval .ofMilliseconds⟩

def confirmationJson (receipt : Receipt) : Except DeliveryError Json → Json
  | .ok payload => .object [("receipt", .string receipt.id), ("payload", payload)]
  | .error e => .object [("receipt", .string receipt.id), ("error", .string e.message)]

/-- The report on confirmations, a failure if any of them failed. -/
def confirmationEnding (receipts : List Receipt) (results : List (Except DeliveryError Json)) :
    Ending :=
  let failed := results.countP fun r => !r.toBool
  ⟨some (.array (receipts.zipWith confirmationJson results)),
    if failed = 0 then none else some (.unconfirmed failed receipts.length)⟩

def readState (n : Node) (contract : ContractHash) :
    StateItem → Node.Posting (Except TransportError Json)
  | .namedKey name => n.namedKeyValue contract name
  | .dictionary dictionary key => n.dictionaryItem contract dictionary key

def installRequest (c : Config) (code : List UInt8) (arguments : List NamedArgument)
    (payment? : Option UInt64) : Request :=
  let draft := arguments.foldl (fun d a => d.withArgument a.name a.value)
    (Request.Draft.install code)
  (payment?.elim draft draft.withPayment).build c.deploy

namespace Command

def plan (c : Config) (n : Node) (files : String → Except ReadError (List UInt8)) :
    Command → Except Failure Plan
  | status => .ok (.alone (checkStatus c n))
  | confirm receipts maxPolls? intervalMs? =>
    let dialogues := Relay.confirmEach receipts (pollPolicy c maxPolls? intervalMs?)
    .ok (.sideBySide (dialogues.map (Client.relaying n)) (confirmationEnding receipts))
  | call target made =>
    (findContract c made.family target.contract?).map fun contract =>
      .alone (deliver c n (made.operation.request contract target.payment? c.deploy)
        target.waits)
  | install wasm arguments payment? waits =>
    match files wasm with
    | .error cause => .error (.unreadable cause)
    | .ok code => .ok (.alone (deliver c n (installRequest c code arguments payment?) waits))
  | query name item =>
    (findContract c name (some name)).map fun contract =>
      .alone (orFail .transport (Client.posting (readState n contract item)) fun value =>
        .done (.printed (.object [("contract", .string contract.toText), ("value", value)])))

end Command

namespace Invocation

/-- The settings of an invocation. A log level on the command line comes before all others. -/
def settings (i : Invocation) (files : String → Except ReadError (List UInt8))
    (lookup : String → Option String) : Except Failure Config :=
  match Config.load (i.config?.map files) lookup with
  | .error e => .error (.settings e)
  | .ok c => .ok (i.logLevel?.elim c fun level => { c with observability.logLevel := level })

def plan (i : Invocation) (files : String → Except ReadError (List UInt8))
    (lookup : String → Option String) : Except Failure Plan :=
  match i.settings files lookup with
  | .error e => .error e
  | .ok c =>
    match Node.ofSettings c.node with
    | .error e => .error (.transport e)
    | .ok n => i.command.plan c n files

def paths (i : Invocation) : List String :=
  i.config?.toList ++
    match i.command with
    | .install wasm .. => [wasm]
    | _ => []

end Invocation
end Courier.CommandLine
