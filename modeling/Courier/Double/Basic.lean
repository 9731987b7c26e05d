/-!
Binary floating-point numbers of 64 bits, in exact arithmetic. Every operation computes the exact
result and rounds it once, to nearest with ties to even.
-/
namespace Courier

/-- A finite value is `mantissa * 2 ^ exponent`, negated when `negative`. -/
inductive Double where
  | nan
  | infinite (negative : Bool)
  | finite (negative : Bool) (mantissa : Nat) (exponent : Int)
deriving DecidableEq, Repr, Inhabited

namespace Double

/-- The mantissa has at most this many bits. -/
def precision : Nat := 53

def hiddenBit : Nat := 0x10000000000000

/-- The exponent of the last bit of subnormal values. -/
def minExponent : Int := -1074

def maxExponent : Int := 971

def zero : Double := .finite false 0 minExponent

def one : Double := .finite false hiddenBit (-52)

instance : OfNat Double 0 := ⟨zero⟩
instance : OfNat Double 1 := ⟨one⟩

/-- A quotient rounded to the nearest integer, a tie to the even one. -/
def roundEven (num den : Nat) : Nat :=
  let q := num / den
  let r := num % den
  if 2 * r > den ∨ (2 * r = den ∧ q % 2 = 1) then q + 1 else q

/-- `num / den` in units of `2 ^ exponent`, rounded. -/
def inUnits (num den : Nat) (exponent : Int) : Nat :=
  if 0 ≤ exponent then roundEven num (den * Nat.pow 2 exponent.toNat)
  else roundEven (num * Nat.pow 2 (-exponent).toNat) den

/-- The integer `k` with `2 ^ k ≤ num / den < 2 ^ (k + 1)`, for positive arguments. -/
def binaryOrder (num den : Nat) : Int :=
  let k : Int := (num.log2 : Int) - den.log2
  let reaches := if 0 ≤ k then den * Nat.pow 2 k.toNat ≤ num else den ≤ num * Nat.pow 2 (-k).toNat
  if reaches then k else k - 1

/-- The value nearest to `num / den`, ties to the even mantissa. -/
def ofRatio (negative : Bool) (num den : Nat) : Double :=
  if num = 0 then .finite negative 0 minExponent
  else
    let e := max minExponent (binaryOrder num den - 52)
    let m := inUnits num den e
    let (m, e) := if m = Nat.pow 2 precision then (Nat.pow 2 (precision - 1), e + 1) else (m, e)
    if maxExponent < e then .infinite negative else .finite negative m e

def ofNat (n : Nat) : Double :=
  ofRatio false n 1

def ofInt (i : Int) : Double :=
  ofRatio (i < 0) i.natAbs 1

/-- The value nearest to `digits * 10 ^ exponent`. Magnitudes beyond the range are decided by
their number of digits. -/
def ofDecimal (negative : Bool) (digits : Nat) (exponent : Int) : Double :=
  let order : Int := (Nat.toDigits 10 digits).length + exponent
  if digits = 0 ∨ order < -400 then .finite negative 0 minExponent
  else if 400 < order then .infinite negative
  else if 0 ≤ exponent then ofRatio negative (digits * Nat.pow 10 exponent.toNat) 1
  else ofRatio negative digits (Nat.pow 10 (-exponent).toNat)

def fraction (mantissa : Nat) (exponent : Int) : Nat × Nat :=
  if 0 ≤ exponent then (mantissa * Nat.pow 2 exponent.toNat, 1)
  else (mantissa, Nat.pow 2 (-exponent).toNat)

/-- The rounded product. Zero times infinity is no number. -/
def mul : Double → Double → Double
  | .nan, _ => .nan
  | _, .nan => .nan
  | .infinite s, .infinite t => .infinite (s != t)
  | .infinite s, .finite t m _ => if m = 0 then .nan else .infinite (s != t)
  | .finite s m _, .infinite t => if m = 0 then .nan else .infinite (s != t)
  | .finite s m e, .finite t n f =>
    let (num, den) := fraction (m * n) (e + f)
    ofRatio (s != t) num den

instance : Mul Double := ⟨mul⟩

/-- The rounded quotient. Zero by zero and infinity by infinity are no numbers. -/
def div : Double → Double → Double
  | .nan, _ => .nan
  | _, .nan => .nan
  | .infinite _, .infinite _ => .nan
  | .infinite s, .finite t _ _ => .infinite (s != t)
  | .finite s _ _, .infinite t => .finite (s != t) 0 minExponent
  | .finite s m e, .finite t n f =>
    if n = 0 then if m = 0 then .nan else .infinite (s != t)
    else
      let (num, den) := fraction m (e - f)
      ofRatio (s != t) num (den * n)

instance : Div Double := ⟨div⟩

/-- The exact integer value of a finite number in units of `2 ^ minExponent`. -/
def scaled (negative : Bool) (mantissa : Nat) (exponent : Int) : Int :=
  let n : Int := (mantissa * Nat.pow 2 (exponent - minExponent).toNat : Nat)
  if negative then -n else n

/-- The order of values; `nan` is not below anything and nothing is below it. -/
def lt : Double → Double → Bool
  | .nan, _ => false
  | _, .nan => false
  | .infinite s, .infinite t => s && !t
  | .infinite s, .finite .. => s
  | .finite .., .infinite t => !t
  | .finite s m e, .finite t n f => scaled s m e < scaled t n f

/-- A value moved into the interval from zero to one; `nan` stays. -/
def clampUnit (x : Double) : Double :=
  if lt x zero then zero else if lt one x then one else x

def inUnit : Double → Bool
  | .nan => false
  | x => !lt x zero && !lt one x

/-- The integer part as a word: below the range it is zero, above it the largest word. -/
def toWord : Double → UInt64
  | .nan => 0
  | .infinite negative => if negative then 0 else UInt64.ofNat (UInt64.size - 1)
  | .finite negative m e =>
    let (num, den) := fraction m e
    if negative then 0 else UInt64.ofNat (min (num / den) (UInt64.size - 1))

/-- The 64 bits of the interchange format; nothing for `nan`, which has many. -/
def bits? : Double → Option UInt64
  | .nan => none
  | .infinite negative => some (signBit negative + UInt64.ofNat (2047 * hiddenBit))
  | .finite negative m e =>
    if m < hiddenBit then some (signBit negative + UInt64.ofNat m)
    else
      some (signBit negative + UInt64.ofNat ((e + 1075).toNat * hiddenBit + (m - hiddenBit)))
where
  signBit (negative : Bool) : UInt64 := if negative then UInt64.ofNat 0x8000000000000000 else 0

end Double
end Courier
