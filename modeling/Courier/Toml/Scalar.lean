import Courier.Double.Reader
import Courier.Toml.Basic
import Courier.Toml.Moment

/-!
Numbers, truth values, dates and times. Digits may be parted by single underscores; whole numbers
have 64 bits with sign.
-/
namespace Courier.Toml

/-- Digits below a radix, without the underscores, of which each stands between two digits. -/
def digits? (radix : Nat) : List Char → Option (List Char)
  | [] => none
  | [c] => if (Numeral.digitBelow? radix c).isSome then some [c] else none
  | c :: '_' :: rest =>
    if (Numeral.digitBelow? radix c).isSome then (digits? radix rest).map (c :: ·) else none
  | c :: rest =>
    if (Numeral.digitBelow? radix c).isSome then (digits? radix rest).map (c :: ·) else none

def sign : List Char → Bool × List Char
  | '-' :: rest => (true, rest)
  | '+' :: rest => (false, rest)
  | s => (false, s)

/-- Decimal digits; a leading zero stands alone. -/
def wholeDigits? (s : List Char) : Option (List Char) :=
  match s with
  | '0' :: _ :: _ => none
  | s => digits? 10 s

def word? (negative : Bool) (radix : Nat) (digits : List Char) : Option Int :=
  match Numeral.accumulate? radix 0 digits with
  | none => none
  | some n =>
    if negative then (if n ≤ 0x8000000000000000 then some (-(n : Int)) else none)
    else (if n < 0x8000000000000000 then some (n : Int) else none)

/-- A whole number. Only decimal ones have a sign. -/
def integer? (s : List Char) : Option Int :=
  match s with
  | '0' :: 'x' :: rest => (digits? 16 rest).bind (word? false 16)
  | '0' :: 'o' :: rest => (digits? 8 rest).bind (word? false 8)
  | '0' :: 'b' :: rest => (digits? 2 rest).bind (word? false 2)
  | s =>
    let (negative, rest) := sign s
    (wholeDigits? rest).bind (word? negative 10)

def fraction? : List Char → Option (List Char)
  | [] => some []
  | '.' :: rest => (digits? 10 rest).map ('.' :: ·)
  | _ => none

def exponent? : List Char → Option (List Char)
  | [] => some []
  | _ :: '-' :: rest => (digits? 10 rest).map fun d => 'e' :: '-' :: d
  | _ :: '+' :: rest => (digits? 10 rest).map ('e' :: ·)
  | _ :: rest => (digits? 10 rest).map ('e' :: ·)

def isExponentMark (c : Char) : Bool :=
  c == 'e' || c == 'E'

/-- A number with a fraction, an exponent or both. One beyond the range is refused, unless it is
negative. -/
def decimal? (s : List Char) : Option Double :=
  let (negative, rest) := sign s
  let mantissa := rest.takeWhile fun c => !isExponentMark c
  let whole := mantissa.takeWhile (· != '.')
  match wholeDigits? whole, fraction? (mantissa.drop whole.length),
    exponent? (rest.drop mantissa.length) with
  | some whole, some part, some exponent =>
    if part.isEmpty ∧ exponent.isEmpty then none
    else
      (Double.ofText? ((if negative then ['-'] else []) ++ whole ++ part ++ exponent)).filter
        (· != .infinite false)
  | _, _, _ => none

def named? (s : List Char) : Option Double :=
  let (negative, rest) := sign s
  if rest = "inf".toList then some (.infinite negative)
  else if rest = "nan".toList then some .nan
  else none

def scalar? (s : List Char) : Option Value :=
  if s = "true".toList then some (.bool true)
  else if s = "false".toList then some (.bool false)
  else ((Moment.ofText? s).map fun m => Value.moment m.toText)
    |>.or ((decimal? s).map Value.real)
    |>.or ((integer? s).map Value.integer)
    |>.or ((named? s).map Value.real)

end Courier.Toml
