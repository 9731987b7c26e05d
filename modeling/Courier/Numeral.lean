/-!
Numbers as text. Plain numerals are ASCII digits with at most one plus sign; wide numerals choose
their radix by a two-character beginning and may contain underscores.
-/
namespace Courier.Numeral

/-- Decimal digits without leading zeros; zero is `0`. -/
def decimal (n : Nat) : List Char :=
  Nat.toDigits 10 n

/-- The value of an ASCII digit or letter, letters of either case counting from ten. -/
def digitValue? (c : Char) : Option Nat :=
  if '0' ≤ c ∧ c ≤ '9' then some (c.toNat - 48)
  else if 'a' ≤ c ∧ c ≤ 'z' then some (c.toNat - 87)
  else if 'A' ≤ c ∧ c ≤ 'Z' then some (c.toNat - 55)
  else none

def digitBelow? (radix : Nat) (c : Char) : Option Nat :=
  (digitValue? c).filter (· < radix)

/-- Reads digits into a value that already stands at `acc`. -/
def accumulate? (radix : Nat) (acc : Nat) : List Char → Option Nat
  | [] => some acc
  | c :: rest =>
    match digitBelow? radix c with
    | none => none
    | some d => accumulate? radix (radix * acc + d) rest

/-- At least one decimal digit and nothing else. -/
def digits? (s : List Char) : Option Nat :=
  if s.isEmpty then none else accumulate? 10 0 s

/-- A decimal numeral with at most one plus sign in front. -/
def unsigned? : List Char → Option Nat
  | '+' :: rest => digits? rest
  | s => digits? s

/-- A decimal numeral with at most one sign in front. -/
def signed? : List Char → Option Int
  | '-' :: rest => (digits? rest).map fun n => -(n : Int)
  | s => (unsigned? s).map Int.ofNat

def unsignedBits? (bits : Nat) (s : List Char) : Option Nat :=
  (unsigned? s).filter (· < Nat.pow 2 bits)

/-- A numeral read as a signed word of 64 bits that lies below `bound` and is not negative. -/
def wordBelow? (bound : Nat) (s : List Char) : Option Nat :=
  match signed? s with
  | some (.ofNat n) => if n < bound then some n else none
  | _ => none

/-- The radix a wide numeral announces, and the rest of its text. -/
def announcedRadix : List Char → Nat × List Char
  | '0' :: 'x' :: rest => (16, rest)
  | '0' :: 'X' :: rest => (16, rest)
  | '0' :: 'o' :: rest => (8, rest)
  | '0' :: 'O' :: rest => (8, rest)
  | '0' :: 'b' :: rest => (2, rest)
  | '0' :: 'B' :: rest => (2, rest)
  | s => (10, s)

/-- A wide numeral that fits `bits` bits. Underscores are skipped and no digits at all mean zero. -/
def wide? (bits : Nat) (s : List Char) : Option Nat :=
  let (radix, rest) := announcedRadix s
  (accumulate? radix 0 (rest.filter (· ≠ '_'))).filter (· < Nat.pow 2 bits)

end Courier.Numeral
