import Courier.Numeral
import Courier.Text.Cut

/-!
Dates and times. A time may have any number of digits after the point, of which nine count; an
offset from universal time goes with a date and a time only.
-/
namespace Courier.Toml

structure Date where
  year : Nat
  month : Nat
  day : Nat
deriving DecidableEq, Repr

structure Time where
  hour : Nat
  minute : Nat
  second : Nat
  nanosecond : Nat
deriving DecidableEq, Repr

inductive Offset where
  | zero
  | minutes (n : Int)
deriving DecidableEq, Repr

inductive Moment where
  | date (d : Date)
  | time (t : Time)
  | dateTime (d : Date) (t : Time) (offset : Option Offset)
deriving DecidableEq, Repr

def isLeapYear (year : Nat) : Bool :=
  year % 4 == 0 && (year % 100 != 0 || year % 400 == 0)

def daysInMonth (year month : Nat) : Nat :=
  if month = 2 then (if isLeapYear year then 29 else 28)
  else if month = 4 ∨ month = 6 ∨ month = 9 ∨ month = 11 then 30
  else 31

/-- Exactly `width` decimal digits. -/
def fixed? (width : Nat) (s : List Char) : Option Nat :=
  if s.length = width then Numeral.digits? s else none

def pairBelow? (bound : Nat) (s : List Char) : Option Nat :=
  (fixed? 2 s).filter (· < bound)

/-- Four digits, two and two, with hyphens; only days that exist. -/
def date? (s : List Char) : Option Date :=
  match Text.pieces '-' s with
  | [y, m, d] =>
    match fixed? 4 y, fixed? 2 m, fixed? 2 d with
    | some y, some m, some d =>
      if 1 ≤ m ∧ m ≤ 12 ∧ 1 ≤ d ∧ d ≤ daysInMonth y m then some ⟨y, m, d⟩ else none
    | _, _, _ => none
  | _ => none

def nanoseconds? (s : List Char) : Option Nat :=
  if s.isEmpty ∨ !s.all Char.isDigit then none
  else
    let kept := s.take 9
    (Numeral.digits? kept).map fun n => n * Nat.pow 10 (9 - kept.length)

/-- Hours, minutes and seconds with colons; a minute may have a leap second. -/
def time? (s : List Char) : Option Time :=
  let (whole, part) := match Text.cutAt '.' s with
    | some (whole, part) => (whole, nanoseconds? part)
    | none => (s, some 0)
  match Text.pieces ':' whole with
  | [h, m, s] =>
    match pairBelow? 24 h, pairBelow? 60 m, pairBelow? 61 s, part with
    | some h, some m, some s, some n => some ⟨h, m, s, n⟩
    | _, _, _, _ => none
  | _ => none

def hoursAndMinutes? (s : List Char) : Option Nat :=
  match Text.pieces ':' s with
  | [h, m] =>
    match pairBelow? 24 h, pairBelow? 60 m with
    | some h, some m => some (60 * h + m)
    | _, _ => none
  | _ => none

def startsOffset (c : Char) : Bool :=
  c == 'Z' || c == 'z' || c == '+' || c == '-'

/-- An offset, or none at the end of the text. -/
def offset? : List Char → Option (Option Offset)
  | [] => some none
  | '+' :: rest => (hoursAndMinutes? rest).map fun n => some (.minutes n)
  | '-' :: rest => (hoursAndMinutes? rest).map fun n => some (.minutes (-(n : Int)))
  | [c] => if c = 'Z' ∨ c = 'z' then some (some .zero) else none
  | _ => none

def timeAndOffset? (s : List Char) : Option (Time × Option Offset) :=
  match time? (s.takeWhile fun c => !startsOffset c),
    offset? (s.dropWhile fun c => !startsOffset c) with
  | some t, some o => some (t, o)
  | _, _ => none

namespace Moment

/-- Whether date and time are parted here. -/
def isGap (c : Char) : Bool :=
  c == 'T' || c == 't' || c == ' '

def ofText? (s : List Char) : Option Moment :=
  match s.dropWhile fun c => !isGap c with
  | _ :: rest =>
    match date? (s.takeWhile fun c => !isGap c), timeAndOffset? rest with
    | some d, some (t, o) => some (dateTime d t o)
    | _, _ => none
  | [] => ((date? s).map date).or ((time? s).map time)

def padded (width n : Nat) : String :=
  let digits := Numeral.decimal n
  String.ofList (List.replicate (width - digits.length) '0' ++ digits)

def dateText (d : Date) : String :=
  padded 4 d.year ++ "-" ++ padded 2 d.month ++ "-" ++ padded 2 d.day

def timeText (t : Time) : String :=
  let part :=
    if t.nanosecond = 0 then ""
    else
      let digits := (padded 9 t.nanosecond).toList.reverse.dropWhile (· == '0')
      "." ++ String.ofList digits.reverse
  padded 2 t.hour ++ ":" ++ padded 2 t.minute ++ ":" ++ padded 2 t.second ++ part

def offsetText : Offset → String
  | .zero => "Z"
  | .minutes n =>
    (if n < 0 then "-" else "+") ++ padded 2 (n.natAbs / 60) ++ ":" ++ padded 2 (n.natAbs % 60)

/-- The usual form: a `T` between date and time, and no zeros at the end of a second. -/
def toText : Moment → String
  | date d => dateText d
  | time t => timeText t
  | dateTime d t o => dateText d ++ "T" ++ timeText t ++ o.elim "" offsetText

end Moment
end Courier.Toml
