import Courier.Numeral
import Courier.Text.Cut

/-! Internet addresses in their usual notation: four bytes with dots, or groups with colons. -/
namespace Courier.Ip

/-- A byte in decimal, without leading zeros. -/
def byte? (s : List Char) : Option Nat :=
  match s with
  | ['0'] => some 0
  | '0' :: _ => none
  | s => (Numeral.digits? s).filter (· ≤ 255)

def dotted? (s : List Char) : Option (List Nat) :=
  ((Text.pieces '.' s).mapM byte?).filter (·.length = 4)

def dottedText (bytes : List Nat) : List Char :=
  ['.'].intercalate (bytes.map Numeral.decimal)

def group? (s : List Char) : Option Nat :=
  if s.isEmpty ∨ 4 < s.length then none else Numeral.accumulate? 16 0 s

/-- Four bytes with dots, as two groups. -/
def dottedGroups? (s : List Char) : Option (List Nat) :=
  match dotted? s with
  | some [a, b, c, d] => some [256 * a + b, 256 * c + d]
  | _ => none

/-- Groups between colons; the last part may have dots. -/
def groups? : List (List Char) → Option (List Nat)
  | [] => some []
  | [s] => if s.contains '.' then dottedGroups? s else (group? s).map ([·])
  | s :: rest =>
    match group? s, groups? rest with
    | some g, some gs => some (g :: gs)
    | _, _ => none

def groupsOrNone? (s : List Char) : Option (List Nat) :=
  if s.isEmpty then some [] else groups? (Text.pieces ':' s)

/-- The text before and after the first two colons in a row. -/
def cutAtGap? : List Char → Option (List Char × List Char)
  | [] => none
  | [_] => none
  | a :: b :: rest =>
    if a = ':' ∧ b = ':' then some ([], rest)
    else (cutAtGap? (b :: rest)).map fun (before, after) => (a :: before, after)

/-- Reads eight groups. A gap stands for one or more zeros; groups with dots come last. -/
def grouped? (s : List Char) : Option (List Nat) :=
  match cutAtGap? s with
  | none => (groups? (Text.pieces ':' s)).filter (·.length = 8)
  | some (before, after) =>
    match groupsOrNone? before, groupsOrNone? after with
    | some a, some b =>
      if before.contains '.' ∨ 7 < a.length + b.length then none
      else some (a ++ List.replicate (8 - a.length - b.length) 0 ++ b)
    | _, _ => none

/-- Where the longest run of zeros starts and how long it is; of equal ones the first. -/
def zeroRun : Nat → List Nat → Nat × Nat
  | _, [] => (0, 0)
  | i, g :: rest =>
    let here := ((g :: rest).takeWhile (· == 0)).length
    let (j, later) := zeroRun (i + 1) rest
    if here ≠ 0 ∧ later ≤ here then (i, here) else (j, later)

def plainText (groups : List Nat) : List Char :=
  [':'].intercalate (groups.map fun g => Nat.toDigits 16 g)

/-- Groups with a gap for the longest run of two or more zeros. -/
def groupedText (groups : List Nat) : List Char :=
  let (start, length) := zeroRun 0 groups
  if length < 2 then plainText groups
  else plainText (groups.take start) ++ ':' :: ':' :: plainText (groups.drop (start + length))

end Courier.Ip
