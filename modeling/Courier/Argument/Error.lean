import Courier.Hex

/-! Why a hash, a key or an argument cannot be read. -/
namespace Courier

inductive ArgumentError where
  /-- The text of a hash or byte string is not hexadecimal. -/
  | badHex (cause : Hex.Error)
  /-- A hash has this many bytes instead of 32. -/
  | wrongLength (bytes : Nat)
  /-- A key starts with neither of the two known beginnings. -/
  | unknownKeyForm (text : String)
  /-- An argument is not of the form `name:type=value`. -/
  | malformed (text : String)
  | unknownType (name : String)
  /-- A value does not belong to its type, which is given as it was written. -/
  | badValue (type value : String)
deriving DecidableEq, Repr

namespace ArgumentError

def message : ArgumentError → String
  | badHex cause => "invalid hex: " ++ cause.message
  | wrongLength n => "expected 32 bytes, got " ++ toString n
  | unknownKeyForm text => "unrecognized key format: " ++ text
  | malformed text => "expected name:type=value, got " ++ text
  | unknownType name => "unknown argument type: " ++ name
  | badValue type value => "invalid " ++ type ++ " value: " ++ value

def report : ArgumentError → String
  | badHex cause => "Hex(" ++ Text.quote cause.message ++ ")"
  | wrongLength n => "Length(" ++ toString n ++ ")"
  | unknownKeyForm text => "KeyFormat(" ++ Text.quote text ++ ")"
  | malformed text => "NamedFormat(" ++ Text.quote text ++ ")"
  | unknownType name => "UnknownType(" ++ Text.quote name ++ ")"
  | badValue type value =>
    "Value \x7b cl_type: " ++ Text.quote type ++ ", value: " ++ Text.quote value ++ " \x7d"

end ArgumentError
end Courier
