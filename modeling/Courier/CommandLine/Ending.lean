import Courier.Argument.Error
import Courier.CommandLine.Form
import Courier.Config.Load
import Courier.Json.Printer
import Courier.Receipt

/-!
How a command ends: what it prints and why it failed, if it did. A command may print and fail.
-/
namespace Courier.CommandLine

inductive Failure where
  | settings (cause : ConfigError)
  /-- The file of a compiled module cannot be read. -/
  | unreadable (cause : ReadError)
  /-- No contract was named, and the settings list none for the family. -/
  | unlistedContract (family : String)
  /-- The contract that was named has no readable hash. -/
  | contract (cause : ArgumentError)
  | transport (cause : TransportError)
  | delivery (cause : DeliveryError)
  | unconfirmed (failed total : Nat)
deriving DecidableEq, Repr

namespace Failure

/-- The failure as the command line reports it. Plain sentences stand in quotation marks. -/
def report : Failure → String
  | settings cause => cause.report
  | unreadable cause => cause.report
  | unlistedContract family =>
    Text.quote ("no contract named '" ++ family ++ "' in [contracts]; pass --contract")
  | contract cause => cause.report
  | transport cause => cause.report
  | delivery cause => cause.report
  | unconfirmed failed total =>
    Text.quote (toString failed ++ " of " ++ toString total ++ " confirmations failed")

end Failure

structure Ending where
  output? : Option Json
  failure? : Option Failure

namespace Ending

def printed (v : Json) : Ending := ⟨some v, none⟩

def failed (f : Failure) : Ending := ⟨none, some f⟩

def stdout (e : Ending) : String :=
  e.output?.elim "" fun v => v.pretty ++ "\n"

def status (e : Ending) : UInt8 :=
  if e.failure?.isSome then 1 else 0

end Ending

def Refusal.status : Refusal → UInt8
  | .help => 0
  | .misuse => 2

end Courier.CommandLine
