import Courier.Text.Quoted

/-!
Hexadecimal text for byte strings. Bytes are written as two lowercase digits; either case is read,
and one leading `0x` of either case is skipped.
-/
namespace Courier.Hex

/-- The lowercase digit for a value below sixteen. -/
def digit (n : Nat) : Char :=
  if n < 10 then Char.ofNat (48 + n) else Char.ofNat (87 + n)

/-- Two digits a byte, the high half first. -/
def encode : List UInt8 → List Char
  | [] => []
  | b :: rest => digit (b.toNat / 16) :: digit (b.toNat % 16) :: encode rest

def digitValue? (n : Nat) : Option Nat :=
  if 48 ≤ n ∧ n ≤ 57 then some (n - 48)
  else if 97 ≤ n ∧ n ≤ 102 then some (n - 87)
  else if 65 ≤ n ∧ n ≤ 70 then some (n - 55)
  else none

/-- Why a text is not hexadecimal. Positions count bytes after the skipped `0x`. -/
inductive Error where
  | oddLength
  | badDigit (byte : UInt8) (position : Nat)
deriving DecidableEq, Repr

/-- Reads digit pairs and stops at the first byte that is no digit. -/
def pairs (position : Nat) : List UInt8 → Except Error (List UInt8)
  | a :: b :: rest =>
    match digitValue? a.toNat, digitValue? b.toNat with
    | none, _ => .error (.badDigit a position)
    | some _, none => .error (.badDigit b (position + 1))
    | some x, some y => (pairs (position + 2) rest).map (UInt8.ofNat (16 * x + y) :: ·)
  | _ => .ok []

/-- The digits of a text: its bytes, without one leading `0x` or `0X`. -/
def body : List UInt8 → List UInt8
  | 48 :: 120 :: rest => rest
  | 48 :: 88 :: rest => rest
  | s => s

/-- Reads the bytes of a text. An odd number of digits is reported before a bad one. -/
def decodeBytes (s : List UInt8) : Except Error (List UInt8) :=
  let digits := body s
  if digits.length % 2 = 1 then .error .oddLength else pairs 0 digits

def decode (s : List Char) : Except Error (List UInt8) :=
  decodeBytes (String.ofList s).toUTF8.toList

/-- A bad digit is shown as the Latin-1 character of its byte. -/
def Error.message : Error → String
  | .oddLength => "odd number of digits"
  | .badDigit b i =>
    "invalid character " ++ Text.quoteChar (Char.ofNat b.toNat) ++ " at position " ++ toString i

end Courier.Hex
