/-!
Percent encoding. Characters outside ASCII and controls are always encoded; each part of an address
encodes a few more.
-/
namespace Courier.Url.Percent

/-- The uppercase digit for a value below sixteen. -/
def digit (n : Nat) : Char :=
  if n < 10 then Char.ofNat (48 + n) else Char.ofNat (55 + n)

def encodeByte (b : UInt8) : List Char :=
  ['%', digit (b.toNat / 16), digit (b.toNat % 16)]

def encode (special : Char → Bool) (s : List Char) : List Char :=
  s.flatMap fun c =>
    if special c then (String.singleton c).toUTF8.toList.flatMap encodeByte else [c]

def isControl (c : Char) : Bool :=
  c.toNat < 0x20 || 0x7F ≤ c.toNat

def inFragment (c : Char) : Bool :=
  isControl c || " \"<>`".toList.contains c

def inQuery (c : Char) : Bool :=
  isControl c || " \"#<>".toList.contains c

/-- The schemes of the web also encode the apostrophe in a query. -/
def inSpecialQuery (c : Char) : Bool :=
  inQuery c || c == '\''

def inPath (c : Char) : Bool :=
  inFragment c || "#?\x7b\x7d".toList.contains c

def inUserinfo (c : Char) : Bool :=
  inPath c || "/:;=@[\\]^|".toList.contains c

def digitValue? (b : UInt8) : Option Nat :=
  let n := b.toNat
  if 48 ≤ n ∧ n ≤ 57 then some (n - 48)
  else if 97 ≤ n ∧ n ≤ 102 then some (n - 87)
  else if 65 ≤ n ∧ n ≤ 70 then some (n - 55)
  else none

/-- Decodes every percent sign that two digits follow. -/
def decodeBytes : List UInt8 → List UInt8
  | [] => []
  | [a] => [a]
  | [a, b] => [a, b]
  | a :: b :: c :: rest =>
    if a = 37 then
      match digitValue? b, digitValue? c with
      | some x, some y => UInt8.ofNat (16 * x + y) :: decodeBytes rest
      | _, _ => a :: decodeBytes (b :: c :: rest)
    else a :: decodeBytes (b :: c :: rest)

/-- Decodes text, unless the bytes are no text. -/
def decode? (s : List Char) : Option (List Char) :=
  (String.fromUTF8? ⟨(decodeBytes (String.ofList s).toUTF8.toList).toArray⟩).map String.toList

end Courier.Url.Percent
