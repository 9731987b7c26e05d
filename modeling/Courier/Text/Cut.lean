/-!
Cutting text at its first separator, after a known beginning and at the blanks of its two ends, and
lower case within ASCII.
-/
namespace Courier.Text

/-- The characters with the Unicode property `White_Space`. -/
def isBlank (c : Char) : Bool :=
  let n := c.toNat
  (9 ≤ n && n ≤ 13) || n == 0x20 || n == 0x85 || n == 0xA0 || n == 0x1680 ||
    (0x2000 ≤ n && n ≤ 0x200A) || n == 0x2028 || n == 0x2029 || n == 0x202F || n == 0x205F ||
    n == 0x3000

/-- Removes the longest run that satisfies `drop` from both ends. -/
def stripEnds (drop : Char → Bool) (s : List Char) : List Char :=
  ((s.dropWhile drop).reverse.dropWhile drop).reverse

def trim (s : List Char) : List Char :=
  stripEnds isBlank s

/-- The text before and after the first `sep`; nothing when `sep` does not occur. -/
def cutAt (sep : Char) : List Char → Option (List Char × List Char)
  | [] => none
  | c :: rest =>
    if c = sep then some ([], rest) else (cutAt sep rest).map fun (a, b) => (c :: a, b)

/-- What follows `start`, when the text begins with it. -/
def after? (start : List Char) (s : List Char) : Option (List Char) :=
  match start, s with
  | [], s => some s
  | _ :: _, [] => none
  | a :: start, c :: s => if a = c then after? start s else none

/-- The text without as many copies of `a b` in front as there are. -/
def dropPairs (a b : Char) : List Char → List Char
  | c :: d :: rest => if c = a ∧ d = b then dropPairs a b rest else c :: d :: rest
  | s => s

/-- Splits at every `sep`; a text without one is a single piece. -/
def pieces (sep : Char) : List Char → List (List Char)
  | [] => [[]]
  | c :: rest =>
    if c = sep then [] :: pieces sep rest
    else match pieces sep rest with
      | [] => [[c]]
      | p :: ps => (c :: p) :: ps

def lowerAscii (c : Char) : Char :=
  if 'A' ≤ c ∧ c ≤ 'Z' then Char.ofNat (c.toNat + 32) else c

theorem cutAt_append {sep : Char} {a : List Char} (h : sep ∉ a) (b : List Char) :
    cutAt sep (a ++ sep :: b) = some (a, b) := by
  induction a with
  | nil => simp [cutAt]
  | cons c a ih =>
    simp only [List.mem_cons, not_or] at h
    simp [cutAt, ih h.2, Ne.symm h.1]

theorem cutAt_length_lt {sep : Char} {s a b : List Char} (h : cutAt sep s = some (a, b)) :
    b.length < s.length := by
  induction s generalizing a with
  | nil => simp [cutAt] at h
  | cons c s ih =>
    simp only [cutAt] at h
    split at h
    · simp only [Option.some.injEq, Prod.mk.injEq] at h
      simp [← h.2]
    · obtain ⟨⟨a', b'⟩, hs, hab⟩ := Option.map_eq_some_iff.1 h
      simp only [Prod.mk.injEq] at hab
      rw [hab.2] at hs
      exact Nat.lt_succ_of_lt (ih hs)

theorem after?_append (start s : List Char) : after? start (start ++ s) = some s := by
  induction start with
  | nil => cases s <;> rfl
  | cons a start ih => simp [after?, ih]

end Courier.Text
