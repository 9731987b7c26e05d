import Courier.Double.Basic
import Courier.Numeral
import Courier.Text.Cut

/-! Floating-point numbers from decimal text, correctly rounded. -/
namespace Courier.Double

def spanDigits (s : List Char) : List Char × List Char :=
  (s.takeWhile Char.isDigit, s.dropWhile Char.isDigit)

def exponent? : List Char → Option Int
  | [] => some 0
  | 'e' :: rest => Numeral.signed? rest
  | 'E' :: rest => Numeral.signed? rest
  | _ => none

/-- A numeral with optional fraction and exponent, and a digit somewhere before the exponent. -/
def unsigned? (negative : Bool) (s : List Char) : Option Double :=
  let (whole, rest) := spanDigits s
  let (part, rest) := match rest with
    | '.' :: rest => spanDigits rest
    | rest => ([], rest)
  match Numeral.digits? (whole ++ part), exponent? rest with
  | some digits, some e => some (ofDecimal negative digits (e - part.length))
  | _, _ => none

def named? (negative : Bool) (s : List Char) : Option Double :=
  let word := String.ofList (s.map Text.lowerAscii)
  if word = "nan" then some .nan
  else if word = "inf" ∨ word = "infinity" then some (.infinite negative)
  else none

/-- Reads a decimal numeral or a name, with at most one sign in front. -/
def ofText? (s : List Char) : Option Double :=
  let (negative, rest) := match s with
    | '-' :: rest => (true, rest)
    | '+' :: rest => (false, rest)
    | s => (false, s)
  (named? negative rest).orElse fun _ => unsigned? negative rest

end Courier.Double
