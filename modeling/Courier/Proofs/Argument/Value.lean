import Courier.Argument.Value
import Courier.Json.Printer
import Courier.Proofs.Argument.HashForms
import Courier.Proofs.Numeral

/-! Argument values that are written are read back. -/
namespace Courier

/-- The text of a value. A string stands without its quotation marks. -/
def Json.bare : Json → String
  | .string s => s
  | v => v.compact

namespace ArgumentValue

/-- The name of a value's type: its tag, which for byte strings is no mere name. -/
def typeName (v : ArgumentValue) : String :=
  v.typeTag.text?.getD "bytes"

/-- The word for a type is its name in lower case. -/
theorem lower_typeName (v : ArgumentValue) :
    v.typeName.toList.map Text.lowerAscii = v.typeWord.toList := by
  cases v <;> simp only [typeWord, typeName, typeTag, Json.text?, Option.getD_some,
    Option.getD_none] <;> decide

theorem lower_typeWord (v : ArgumentValue) :
    v.typeWord.toList.map Text.lowerAscii = v.typeWord.toList := by
  cases v <;> simp only [typeWord] <;> decide

theorem bare_nat (n : Nat) : (Json.nat n).bare = decimalText n := by
  unfold Json.nat Json.bare Json.compact
  rfl

/-- The text of a value in a written argument is that of its readable form. -/
theorem toText_eq (v : ArgumentValue) : v.toText = v.readable.bare := by
  cases v with
  | bool v => simp [toText, readable, Json.bare, Json.compact]
  | u8 v | u32 v | u64 v => exact (bare_nat _).symm
  | _ => rfl

theorem ofText?_toText (v : ArgumentValue) (written : String) :
    ofText? v.typeWord written v.toText.toList = some (.ok v) := by
  cases v with
  | bool v => cases v <;> rfl
  | u8 v | u32 v | u64 v =>
    simp [ofText?, typeWord, toText, decimalText, Numeral.unsignedBits?_decimal v.toNat_lt]
  | u128 v => simp [ofText?, typeWord, toText, decimalText, Numeral.unsignedBits?_toNat v]
  | u256 v | u512 v => simp [ofText?, typeWord, toText, decimalText, Numeral.wide?_toNat v]
  | string v => simp [ofText?, typeWord, toText]
  | key v => simp [ofText?, typeWord, toText, Key.ofText_toText, Except.map]
  | bytes v =>
    have hx : 'x' ∉ Hex.encode v := fun h => (Hex.encode_plain v _ h).2.2.1 rfl
    simp [ofText?, typeWord, toText, Text.dropPairs_eq_self hx, Hex.decode_encode]

end ArgumentValue
end Courier
