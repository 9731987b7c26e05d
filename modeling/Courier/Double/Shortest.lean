import Courier.Double.Basic
import Courier.Numeral

/-!
The shortest decimal text of a floating-point number: the fewest digits that read back as the same
number, and of these the nearest to it.
-/
namespace Courier.Double

/-- The reals that round to one value: from `low` to `high` in quarters of a unit, over `den`. -/
structure Basin where
  low : Nat
  value : Nat
  high : Nat
  den : Nat
  /-- The two ends round to the value as well. -/
  closed : Bool

def basin (mantissa : Nat) (exponent : Int) : Basin :=
  let unit := fraction 1 (exponent - 2)
  let below := if mantissa = hiddenBit ∧ minExponent < exponent then 1 else 2
  { low := (4 * mantissa - below) * unit.1
    value := 4 * mantissa * unit.1
    high := (4 * mantissa + 2) * unit.1
    den := unit.2
    closed := mantissa % 2 = 0 }

/-- `c * 10 ^ e` lies in the basin. -/
def Basin.contains (b : Basin) (c : Nat) (e : Int) : Bool :=
  let x := c * Nat.pow 10 e.toNat * b.den
  let s := Nat.pow 10 (-e).toNat
  if b.closed then b.low * s ≤ x && x ≤ b.high * s else b.low * s < x && x < b.high * s

/-- The distance of `c * 10 ^ e` from the value, in the units of `contains`. -/
def Basin.distance (b : Basin) (c : Nat) (e : Int) : Nat :=
  let x := c * Nat.pow 10 e.toNat * b.den
  let v := b.value * Nat.pow 10 (-e).toNat
  if x < v then v - x else x - v

/-- The neighbour of the value on the grid of multiples of `10 ^ e` that lies in the basin. -/
def Basin.onGrid? (b : Basin) (e : Int) : Option Nat :=
  let c := b.value * Nat.pow 10 (-e).toNat / (b.den * Nat.pow 10 e.toNat)
  match b.contains c e, b.contains (c + 1) e with
  | true, true =>
    if b.distance c e < b.distance (c + 1) e ∨
        (b.distance c e = b.distance (c + 1) e ∧ c % 2 = 0) then some c else some (c + 1)
  | true, false => some c
  | false, true => some (c + 1)
  | false, false => none

/-- The number of digits before the decimal point of the value, not positive below a tenth. -/
def Basin.decimalOrder (b : Basin) : Int :=
  if b.den ≤ b.value then (Nat.toDigits 10 (b.value / b.den)).length
  else
    -- the first grid on which the value shows a digit
    1 - ((Nat.toDigits 10 (b.den / b.value)).length : Int) +
      (if b.den % b.value = 0 ∧
        b.den / b.value = Nat.pow 10 ((Nat.toDigits 10 (b.den / b.value)).length - 1) then 1 else 0)

/-- Tries grids from coarse to fine, `fuel` of them. -/
def Basin.search (b : Basin) (e : Int) : Nat → Nat × Int
  | 0 => (b.value * Nat.pow 10 (-e).toNat / (b.den * Nat.pow 10 e.toNat), e)
  | fuel + 1 =>
    match b.onGrid? e with
    | some c => if c = 0 then b.search (e - 1) fuel else (c, e)
    | none => b.search (e - 1) fuel

/-- Removes trailing zeros of `c * 10 ^ e`, at most `fuel` of them. -/
def withoutTrailingZeros (c : Nat) (e : Int) : Nat → Nat × Int
  | 0 => (c, e)
  | fuel + 1 => if c % 10 = 0 ∧ c ≠ 0 then withoutTrailingZeros (c / 10) (e + 1) fuel else (c, e)

/-- Digits and exponent of the shortest decimal that reads back as a positive finite value. -/
def shortest (mantissa : Nat) (exponent : Int) : Nat × Int :=
  let b := basin mantissa exponent
  let (c, e) := b.search b.decimalOrder 20
  withoutTrailingZeros c e 20

structure Layout where
  /-- Most digits before the point of a positional number. -/
  widest : Int
  /-- A positional number starts less than this many places after the point. -/
  deepest : Int
  nan : String
  infinity : String

/-- Numbers in data: positional from `10 ^ -5` up to `10 ^ 16`. -/
def Layout.data : Layout := ⟨16, 5, "nan", "inf"⟩

/-- Numbers in diagnostics: positional from `10 ^ -4` up to `10 ^ 16`. -/
def Layout.diagnostic : Layout := ⟨16, 4, "NaN", "inf"⟩

/-- Digits with the point placed. A positional whole number ends in `.0`. -/
def Layout.place (l : Layout) (digits : List Char) (exponent : Int) : List Char :=
  let point : Int := digits.length + exponent
  if 0 ≤ exponent ∧ point ≤ l.widest then
    digits ++ List.replicate exponent.toNat '0' ++ ['.', '0']
  else if 0 < point ∧ point ≤ l.widest then
    digits.take point.toNat ++ '.' :: digits.drop point.toNat
  else if -l.deepest < point ∧ point ≤ 0 then
    '0' :: '.' :: List.replicate (-point).toNat '0' ++ digits
  else
    let scale := (toString (point - 1)).toList
    match digits with
    | [d] => d :: 'e' :: scale
    | d :: rest => d :: '.' :: rest ++ 'e' :: scale
    | [] => []

def toText (l : Layout) : Double → String
  | .nan => l.nan
  | .infinite negative => if negative then "-" ++ l.infinity else l.infinity
  | .finite negative m e =>
    let text := if m = 0 then "0.0" else
      let (c, k) := shortest m e
      String.ofList (l.place (Numeral.decimal c) k)
    if negative then "-" ++ text else text

end Courier.Double
