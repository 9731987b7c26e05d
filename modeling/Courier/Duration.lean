import Courier.Numeral

/-! Lengths of time in whole nanoseconds, and their text in the largest unit that they fill. -/
namespace Courier

/-- A length of time: up to `2 ^ 64` seconds, end excluded, in steps of a nanosecond. -/
structure Duration where
  nanoseconds : Nat
  bounded : nanoseconds < 0x10000000000000000 * 1000000000
deriving DecidableEq, Repr

namespace Duration

def ofSeconds (seconds : UInt64) (nanoseconds : Fin 1000000000) : Duration where
  nanoseconds := seconds.toNat * 1000000000 + nanoseconds
  bounded := by have := seconds.toNat_lt; have := nanoseconds.isLt; omega

def ofMilliseconds (milliseconds : UInt64) : Duration where
  nanoseconds := milliseconds.toNat * 1000000
  bounded := by have := milliseconds.toNat_lt; omega

/-- The whole milliseconds of a duration, without bound. -/
def milliseconds (d : Duration) : Nat :=
  d.nanoseconds / 1000000

/-- The whole milliseconds of a duration modulo `2 ^ 64`. -/
def wireMilliseconds (d : Duration) : UInt64 :=
  UInt64.ofNat d.milliseconds

/-- The first whole millisecond that is not before the end of the duration. -/
def ceilMilliseconds (d : Duration) : Nat :=
  (d.nanoseconds + (1000000 - 1)) / 1000000

/-- The digits of `part`, one of `10 ^ width`, after a point and without trailing zeros. -/
def fractionText (part width : Nat) : List Char :=
  let digits := Numeral.decimal part
  let padded := List.replicate (width - digits.length) '0' ++ digits
  let kept := (padded.reverse.dropWhile (· == '0')).reverse
  if kept.isEmpty then [] else '.' :: kept

/-- A number of nanoseconds in a unit of `10 ^ width` nanoseconds. -/
def inUnit (nanoseconds width : Nat) (unit : String) : String :=
  String.ofList (Numeral.decimal (nanoseconds / Nat.pow 10 width) ++
    fractionText (nanoseconds % Nat.pow 10 width) width) ++ unit

/-- The duration in seconds, or in the largest smaller unit that it fills. -/
def toText (d : Duration) : String :=
  let n := d.nanoseconds
  if 1000000000 ≤ n then inUnit n 9 "s"
  else if 1000000 ≤ n then inUnit n 6 "ms"
  else if 1000 ≤ n then inUnit n 3 "µs"
  else inUnit n 0 "ns"

end Duration
end Courier
