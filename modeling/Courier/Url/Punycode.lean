/-!
Text in ASCII letters, digits and hyphens for labels of any characters: the ASCII characters come
first, then for each other character, in ascending order, how far it lies from the one before it.
-/
namespace Courier.Url.Punycode

def digit (n : Nat) : Char :=
  if n < 26 then Char.ofNat (97 + n) else Char.ofNat (22 + n)

def digitValue? (c : Char) : Option Nat :=
  let n := c.toNat
  if 97 ≤ n ∧ n ≤ 122 then some (n - 97)
  else if 65 ≤ n ∧ n ≤ 90 then some (n - 65)
  else if 48 ≤ n ∧ n ≤ 57 then some (n - 22)
  else none

/-- The least digit that goes on, at place `k`. -/
def threshold (k bias : Nat) : Nat :=
  max 1 (min 26 (k - bias))

theorem threshold_pos (k bias : Nat) : 1 ≤ threshold k bias :=
  Nat.le_max_left ..

/-- A delta divided by 35 until it is at most 455, and 36 for each division. -/
def shrink (delta k : Nat) : Nat × Nat :=
  if 455 < delta then shrink (delta / 35) (k + 36) else (delta, k)
termination_by delta
decreasing_by exact Nat.div_lt_self (by omega) (by omega)

/-- The bias after a delta, when `count` characters are there. -/
def adapt (delta count : Nat) (first : Bool) : Nat :=
  let delta := if first then delta / 700 else delta / 2
  let (delta, k) := shrink (delta + delta / count) 0
  k + 36 * delta / (delta + 38)

/-- A number in digits of mixed weights, the least first. -/
def number (bias k q : Nat) : List Char :=
  let t := threshold k bias
  if q < t then [digit q]
  else digit (t + (q - t) % (36 - t)) :: number bias (k + 36) ((q - t) / (36 - t))
termination_by q
decreasing_by
  have h := threshold_pos k bias
  exact Nat.lt_of_le_of_lt (Nat.div_le_self _ _) (by omega)

/-- Where an encoding stands: the digits so far, the open delta, the bias, and how many characters
are written. -/
structure State where
  digits : List Char
  delta : Nat
  bias : Nat
  written : Nat

/-- Looks at one character while all those with value `n` are written. -/
def State.visit (basic n : Nat) (s : State) (c : Char) : State :=
  if c.toNat < n then { s with delta := s.delta + 1 }
  else if c.toNat = n then
    { digits := s.digits ++ number s.bias 36 s.delta
      delta := 0
      bias := adapt s.delta (s.written + 1) (s.written == basic)
      written := s.written + 1 }
  else s

/-- Writes all characters with the given values, which ascend from `n` on. -/
def State.visitAll (label : List Char) (basic : Nat) : Nat → List Nat → State → State
  | _, [], s => s
  | n, m :: rest, s =>
    let s := { s with delta := s.delta + (m - n) * (s.written + 1) }
    let s := label.foldl (visit basic m) s
    visitAll label basic (m + 1) rest { s with delta := s.delta + 1 }

def isBasic (c : Char) : Bool :=
  c.toNat < 128

def encode (label : List Char) : List Char :=
  let basic := label.filter isBasic
  let others := ((label.filter fun c => !isBasic c).map Char.toNat).mergeSort.eraseDups
  let start : State := ⟨[], 0, 72, basic.length⟩
  basic ++ (if basic.isEmpty then [] else ['-']) ++
    (start.visitAll label basic.length 128 others).digits

def insertAt (i : Nat) (c : Char) (s : List Char) : List Char :=
  s.take i ++ c :: s.drop i

/-- Reads the digits after the ASCII characters. A character with value `n` is the next to come at
place `i`; the number that is being read began at place `before`, has the weight `w` at its digit
for `k`. -/
def decodeDigits (read : List Char) (n i bias before w k : Nat) :
    List Char → Option (List Char)
  | [] => if k = 36 then some read else none
  | c :: rest =>
    match digitValue? c with
    | none => none
    | some d =>
      let t := threshold k bias
      let i := i + d * w
      if UInt32.size ≤ i then none
      else if t ≤ d then decodeDigits read n i bias before (w * (36 - t)) (k + 36) rest
      else
        let count := read.length + 1
        let n := n + i / count
        let place := i % count
        if n.isValidChar then
          decodeDigits (insertAt place (Char.ofNat n) read) n (place + 1)
            (adapt (i - before) count (before == 0)) (place + 1) 1 36 rest
        else none

/-- Decodes a label. The last hyphen ends the ASCII characters. -/
def decode? (s : List Char) : Option (List Char) :=
  let tail := (s.reverse.takeWhile (· != '-')).reverse
  let basic := (s.reverse.dropWhile (· != '-')).tail.reverse
  if basic.all isBasic then decodeDigits basic 128 0 72 0 1 36 tail else none

end Courier.Url.Punycode
