import Courier.Config.Decode
import Courier.Config.Environment
import Courier.Config.Validation

/-! Settings from a file and the environment, in this order, and then checked. -/
namespace Courier

inductive ReadError where
  | missing
  | notText
  /-- Any other cause, in words. -/
  | other (detail : String)
deriving DecidableEq, Repr

namespace ReadError

def message : ReadError → String
  | missing => "No such file or directory (os error 2)"
  | notText => "stream did not contain valid UTF-8"
  | other detail => detail

def report : ReadError → String
  | missing => "Os \x7b code: 2, kind: NotFound, message: \"No such file or directory\" \x7d"
  | notText =>
    "Error \x7b kind: InvalidData, message: \"stream did not contain valid UTF-8\" \x7d"
  | other detail => "Custom \x7b kind: Other, error: " ++ Text.quote detail ++ " \x7d"

end ReadError

inductive ConfigError where
  | unreadable (cause : ReadError)
  | malformed
  | badVariable (bad : Environment.BadValue)
  | invalid (problems : List SettingError)
deriving DecidableEq, Repr

namespace ConfigError

def message : ConfigError → String
  | unreadable cause => "IO error: " ++ cause.message
  | malformed => "Parse error"
  | badVariable bad => "Invalid value for " ++ bad.name ++ ": " ++ bad.value
  | invalid problems =>
    "Validation failed: " ++ ", ".intercalate (problems.map SettingError.toText)

def report : ConfigError → String
  | unreadable cause => "Io(" ++ cause.report ++ ")"
  | malformed => "Parse"
  | badVariable bad =>
    "Env \x7b var: " ++ Text.quote bad.name ++ ", value: " ++ Text.quote bad.value ++ " \x7d"
  | invalid problems =>
    "Validation([" ++ ", ".intercalate (problems.map SettingError.report) ++ "])"

end ConfigError

namespace Config

/-- The settings of a file, or the defaults without one. -/
def ofFile (file : Option (Except ReadError (List UInt8))) : Except ConfigError Config :=
  match file with
  | none => .ok .default
  | some (.error cause) => .error (.unreadable cause)
  | some (.ok bytes) =>
    match String.fromUTF8? ⟨bytes.toArray⟩ with
    | none => .error (.unreadable .notText)
    | some text => (ofText? text).elim (.error .malformed) .ok

/-- The settings of a file under an environment, if they keep all rules. -/
def load (file : Option (Except ReadError (List UInt8))) (lookup : String → Option String) :
    Except ConfigError Config :=
  match ofFile file with
  | .error e => .error e
  | .ok c =>
    match Environment.apply lookup c with
    | (_, some bad) => .error (.badVariable bad)
    | (c, none) => if c.problems.isEmpty then .ok c else .error (.invalid c.problems)

end Config
end Courier
