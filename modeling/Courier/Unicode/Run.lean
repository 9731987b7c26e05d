import Courier.Numeral
import Courier.Text.Cut

/-!
Tables of code points written as text: runs between blanks, `first-last/step:values`, all numbers
hexadecimal. A run of one code point has no last one, and the usual step is one.
-/
namespace Courier.Unicode

/-- Every `step`-th code point from the first to the last, and the numbers that belong to them. -/
structure Run where
  first : Nat
  last : Nat
  step : Nat
  values : List Nat
deriving Repr

namespace Run

def number (s : List Char) : Nat :=
  (Numeral.accumulate? 16 0 s).getD 0

/-- The text before and after a separator that may be missing. -/
def halves (sep : Char) (s : List Char) : List Char × Option (List Char) :=
  match Text.cutAt sep s with
  | none => (s, none)
  | some (a, b) => (a, some b)

def ofText (s : List Char) : Run :=
  let (points, values) := halves ':' s
  let (points, step) := halves '/' points
  let (first, last) := halves '-' points
  let values := Text.pieces ',' (values.getD [])
  { first := number first
    last := number (last.getD first)
    step := step.elim 1 number
    values := (values.filter (!·.isEmpty)).map number }

def holds (r : Run) (n : Nat) : Bool :=
  r.first ≤ n && n ≤ r.last && (n - r.first) % r.step == 0

end Run

def runs (lines : List String) : Array Run :=
  (lines.flatMap fun line => (Text.pieces ' ' line.toList).map Run.ofText).toArray

def find? (table : Array Run) (c : Char) : Option Run :=
  table.find? (·.holds c.toNat)

def holds (table : Array Run) (c : Char) : Bool :=
  (find? table c).isSome

end Courier.Unicode
