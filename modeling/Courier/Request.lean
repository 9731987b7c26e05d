import Courier.Argument.List
import Courier.Config.Settings

/-!
Requests to the ledger: a call of a stored contract or the installation of a new one, with typed
arguments, a payment and a time to live. A draft leaves the last two open; building a request
fills what is still open from the settings. The envelope is what a signing gateway receives.
-/
namespace Courier

/-- The code that a request runs. -/
inductive Session where
  | call (contract : ContractHash) (entryPoint : String)
  /-- Runs a compiled module, which installs the contract in it. -/
  | install (module : List UInt8)
deriving DecidableEq, Repr

def Session.installEntryPoint : String := "call"

/-- The text of a session in diagnostics. A module shows by its size. -/
def Session.report : Session → String
  | .call contract entryPoint =>
    "StoredContractByHash \x7b contract: ContractHash(0x" ++ contract.toHex ++
      "), entry_point: " ++ Text.quote entryPoint ++ " \x7d"
  | .install module => "ModuleBytes(" ++ toString module.length ++ " bytes)"

structure Request where
  session : Session
  arguments : Arguments
  /-- Payment in motes. -/
  payment : UInt64
  ttl : Duration
deriving DecidableEq, Repr

namespace Request

/-- The contract that is called; an installation has none. -/
def contract? (r : Request) : Option ContractHash :=
  match r.session with
  | .call contract _ => some contract
  | .install _ => none

def entryPoint (r : Request) : String :=
  match r.session with
  | .call _ entryPoint => entryPoint
  | .install _ => Session.installEntryPoint

def sessionJson (r : Request) : Json :=
  match r.session with
  | .call contract entryPoint =>
    .object [("StoredContractByHash", .object [
      ("hash", .string contract.toHex),
      ("entry_point", .string entryPoint),
      ("args", r.arguments.toJson)])]
  | .install module =>
    .object [("ModuleBytes", .object [
      ("module_bytes", .string (String.ofList (Hex.encode module))),
      ("args", r.arguments.toJson)])]

/-- The unsigned envelope of a request for a chain. -/
def envelope (r : Request) (chain : String) : Json :=
  .object [
    ("chain_name", .string chain),
    ("ttl_ms", .nat r.ttl.wireMilliseconds.toNat),
    ("payment", .string (ArgumentValue.decimalText r.payment.toNat)),
    ("session", r.sessionJson)]

/-- A request that may still lack its payment and its time to live. -/
structure Draft where
  session : Session
  arguments : Arguments
  payment : Option UInt64
  ttl : Option Duration
deriving DecidableEq, Repr

namespace Draft

def ofSession (session : Session) : Draft where
  session := session
  arguments := ∅
  payment := none
  ttl := none

def call (contract : ContractHash) (entryPoint : String) : Draft :=
  ofSession (.call contract entryPoint)

def withArgument (d : Draft) (name : String) (value : ArgumentValue) : Draft :=
  { d with arguments := d.arguments.insert name value }

def withArguments (d : Draft) (arguments : Arguments) : Draft :=
  { d with arguments := arguments }

def withPayment (d : Draft) (motes : UInt64) : Draft :=
  { d with payment := some motes }

/-- Sets the payment if there is none yet. -/
def paymentOr (d : Draft) (motes : UInt64) : Draft :=
  { d with payment := some (d.payment.getD motes) }

def withTtl (d : Draft) (ttl : Duration) : Draft :=
  { d with ttl := some ttl }

/-- Payment for an installation that names none, in motes. -/
def installPayment : UInt64 := 200000000000

def install (module : List UInt8) : Draft :=
  (ofSession (.install module)).paymentOr installPayment

/-- Fills what is open from the settings. -/
def build (d : Draft) (defaults : DeploySettings) : Request where
  session := d.session
  arguments := d.arguments
  payment := d.payment.getD defaults.paymentAmount
  ttl := d.ttl.getD defaults.ttl

end Draft
end Request
end Courier
