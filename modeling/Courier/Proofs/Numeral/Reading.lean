import Courier.Proofs.Numeral
import Courier.Proofs.Text
import Mathlib.Data.Nat.Digits.Defs

/-!
Which texts are read as numbers: plain numerals with at most one plus sign, wide numerals in the
radix that their mark announces.
-/
namespace Courier.Numeral

/-- Digits of either case, the most significant one first, that stand for a number. -/
def Spells (radix : Nat) (s : List Char) (n : Nat) : Prop :=
  ∃ ds : List Nat, (∀ d ∈ ds, d < radix) ∧ s.map Text.lowerAscii = ds.map Nat.digitChar ∧
    n = Nat.ofDigits radix ds.reverse

/-- A plain numeral: at least one decimal digit, after at most one plus sign. -/
def Plain (s : List Char) (n : Nat) : Prop :=
  ∃ digits, (s = digits ∨ s = '+' :: digits) ∧ digits ≠ [] ∧ Spells 10 digits n

/-- The marks of wide numerals with the radix that each announces. -/
def radices : List (List Char × Nat) :=
  [([], 10), ("0x".toList, 16), ("0X".toList, 16), ("0o".toList, 8), ("0O".toList, 8),
    ("0b".toList, 2), ("0B".toList, 2)]

/-- A wide numeral: a mark, then digits of its radix among underscores; no digits stand for zero. -/
def Wide (s : List Char) (n : Nat) : Prop :=
  ∃ form ∈ radices, ∃ digits, s = form.1 ++ digits ∧ Spells form.2 (digits.filter (· ≠ '_')) n

theorem digitValue?_eq_some_iff {c : Char} {d : Nat} (hd : d < 16) :
    digitValue? c = some d ↔ Text.lowerAscii c = Nat.digitChar d := by
  by_cases hc : c.toNat < 128
  · have hall : ∀ k < 128, ∀ d < 16, (digitValue? (Char.ofNat k) = some d ↔
        Text.lowerAscii (Char.ofNat k) = Nat.digitChar d) := by decide +kernel
    exact Text.forall_ascii
      (p := fun c => digitValue? c = some d ↔ Text.lowerAscii c = Nat.digitChar d)
      (fun k hk => hall k hk d hd) hc
  · -- Beyond ASCII there are neither digits nor letters that become one.
    have hle {m : Char} (hm : m.toNat < 128) : ¬ c ≤ m := by
      intro h
      exact hc (Nat.lt_of_le_of_lt (UInt32.le_iff_toNat_le.1 h) hm)
    have hnone : digitValue? c = none := by
      unfold digitValue?
      rw [if_neg fun h => hle (by decide) h.2, if_neg fun h => hle (by decide) h.2,
        if_neg fun h => hle (by decide) h.2]
    have hdigit : ∀ d < 16, (Nat.digitChar d).toNat < 128 := by decide
    refine iff_of_false (by simp [hnone]) fun h => hc ?_
    rw [← Text.toNat_lowerAscii_lt_iff, h]
    exact hdigit d hd

theorem digitBelow?_eq_some_iff {radix d : Nat} {c : Char} (hr : radix ≤ 16) :
    digitBelow? radix c = some d ↔ d < radix ∧ Text.lowerAscii c = Nat.digitChar d := by
  unfold digitBelow?
  rw [Option.filter_eq_some_iff, decide_eq_true_eq, and_comm]
  exact and_congr_right fun hd => digitValue?_eq_some_iff (by omega)

theorem accumulate?_eq_some_iff {radix : Nat} (hr : radix ≤ 16) {s : List Char} {acc n : Nat} :
    accumulate? radix acc s = some n ↔
      ∃ ds : List Nat, (∀ d ∈ ds, d < radix) ∧ s.map Text.lowerAscii = ds.map Nat.digitChar ∧
        n = ds.foldl (fun m d => radix * m + d) acc := by
  induction s generalizing acc with
  | nil =>
    constructor
    · intro h
      exact ⟨[], by simp, rfl, (Option.some.inj h).symm⟩
    · rintro ⟨ds, -, hmap, hn⟩
      rw [List.map_nil, eq_comm, List.map_eq_nil_iff] at hmap
      rw [hn, hmap]
      rfl
  | cons c s ih =>
    unfold accumulate?
    cases hdigit : digitBelow? radix c with
    | none =>
      refine iff_of_false (by simp) ?_
      rintro ⟨ds, hlt, hmap, -⟩
      obtain ⟨d, ds', rfl, hd, -⟩ := List.map_eq_cons_iff.1 hmap.symm
      have hsome := (digitBelow?_eq_some_iff hr).2 ⟨hlt d List.mem_cons_self, hd.symm⟩
      rw [hdigit] at hsome
      cases hsome
    | some d =>
      have hd := (digitBelow?_eq_some_iff hr).1 hdigit
      dsimp only
      rw [ih]
      constructor
      · rintro ⟨ds, hlt, hmap, hn⟩
        refine ⟨d :: ds, List.forall_mem_cons.2 ⟨hd.1, hlt⟩, ?_, hn⟩
        rw [List.map_cons, List.map_cons, hd.2, hmap]
      · rintro ⟨ds, hlt, hmap, hn⟩
        obtain ⟨d', ds', rfl, hd', hmap'⟩ := List.map_eq_cons_iff.1 hmap.symm
        rw [List.forall_mem_cons] at hlt
        have hsame := (digitBelow?_eq_some_iff hr).2 ⟨hlt.1, hd'.symm⟩
        rw [hdigit, Option.some.injEq] at hsame
        exact ⟨ds', hlt.2, hmap'.symm, hsame ▸ hn⟩

theorem ofDigits_reverse (radix : Nat) (ds : List Nat) :
    Nat.ofDigits radix ds.reverse = ds.foldl (fun m d => radix * m + d) 0 := by
  rw [Nat.ofDigits_eq_foldr, List.foldr_reverse]
  simp only [Nat.cast_id, Nat.add_comm]

theorem accumulate?_zero_eq_some_iff {radix : Nat} (hr : radix ≤ 16) {s : List Char} {n : Nat} :
    accumulate? radix 0 s = some n ↔ Spells radix s n := by
  unfold Spells
  simp only [accumulate?_eq_some_iff hr, ofDigits_reverse]

/-- A character that is no digit in lower case stands in no digits. -/
theorem Spells.not_mem {radix n : Nat} {s : List Char} (h : Spells radix s n) {c : Char}
    (hc : ∀ d < radix, Text.lowerAscii c ≠ Nat.digitChar d) : c ∉ s := by
  obtain ⟨ds, hlt, hmap, -⟩ := h
  intro hmem
  have hlower : Text.lowerAscii c ∈ ds.map Nat.digitChar := hmap ▸ List.mem_map_of_mem hmem
  obtain ⟨d, hd, heq⟩ := List.mem_map.1 hlower
  exact hc d (hlt d hd) heq.symm

theorem digits?_eq_some_iff {s : List Char} {n : Nat} :
    digits? s = some n ↔ s ≠ [] ∧ Spells 10 s n := by
  unfold digits?
  rw [Option.ite_none_left_eq_some, accumulate?_zero_eq_some_iff (by decide), List.isEmpty_iff]

theorem unsigned?_eq_some_iff {s : List Char} {n : Nat} : unsigned? s = some n ↔ Plain s n := by
  unfold unsigned? Plain
  split
  case h_1 rest =>
    rw [digits?_eq_some_iff]
    constructor
    · rintro ⟨hne, hspells⟩
      exact ⟨rest, .inr rfl, hne, hspells⟩
    · rintro ⟨digits, hsplit | hsplit, hne, hspells⟩
      · exact absurd (hsplit ▸ List.mem_cons_self) (hspells.not_mem (c := '+') (by decide))
      · rw [(List.cons.inj hsplit).2]
        exact ⟨hne, hspells⟩
  case h_2 hplus =>
    rw [digits?_eq_some_iff]
    constructor
    · rintro ⟨hne, hspells⟩
      exact ⟨s, .inl rfl, hne, hspells⟩
    · rintro ⟨digits, rfl | hsplit, hne, hspells⟩
      · exact ⟨hne, hspells⟩
      · exact absurd hsplit (hplus digits)

theorem unsignedBits?_eq_some_iff {bits n : Nat} {s : List Char} :
    unsignedBits? bits s = some n ↔ Plain s n ∧ n < 2 ^ bits := by
  unfold unsignedBits?
  rw [Option.filter_eq_some_iff, unsigned?_eq_some_iff, decide_eq_true_eq]
  rfl

/-- The radix that a text announces belongs to the mark in front of it. -/
theorem exists_mark (s : List Char) :
    ∃ mark, (mark, (announcedRadix s).1) ∈ radices ∧ s = mark ++ (announcedRadix s).2 := by
  fun_cases announcedRadix s with
  | case1 rest => exact ⟨"0x".toList, by simp [radices], rfl⟩
  | case2 rest => exact ⟨"0X".toList, by simp [radices], rfl⟩
  | case3 rest => exact ⟨"0o".toList, by simp [radices], rfl⟩
  | case4 rest => exact ⟨"0O".toList, by simp [radices], rfl⟩
  | case5 rest => exact ⟨"0b".toList, by simp [radices], rfl⟩
  | case6 rest => exact ⟨"0B".toList, by simp [radices], rfl⟩
  | case7 => exact ⟨[], by simp [radices], rfl⟩

theorem announcedRadix_append {form : List Char × Nat} (hform : form ∈ radices)
    {digits : List Char} {n : Nat} (h : Spells form.2 (digits.filter (· ≠ '_')) n) :
    announcedRadix (form.1 ++ digits) = (form.2, digits) := by
  simp only [radices, List.mem_cons, List.not_mem_nil, or_false] at hform
  rcases hform with rfl | rfl | rfl | rfl | rfl | rfl | rfl
  · -- No letter of a mark is a decimal digit.
    have hdecimal : ∀ c ∈ ['x', 'X', 'o', 'O', 'b', 'B'],
        c ≠ '_' ∧ ∀ d < 10, Text.lowerAscii c ≠ Nat.digitChar d :=
      List.forall_iff_forall_mem.1 (by decide)
    refine announcedRadix_eq_self fun c hc hmem => ?_
    have hkept : c ∈ digits.filter (· ≠ '_') :=
      List.mem_filter.2 ⟨hmem, by simpa using (hdecimal c hc).1⟩
    exact h.not_mem (hdecimal c hc).2 hkept
  all_goals rfl

theorem wide?_eq_some_iff {bits n : Nat} {s : List Char} :
    wide? bits s = some n ↔ Wide s n ∧ n < 2 ^ bits := by
  have hradices : ∀ form ∈ radices, form.2 ≤ 16 := by decide
  unfold wide?
  dsimp only
  rw [Option.filter_eq_some_iff, decide_eq_true_eq]
  refine and_congr_left fun _ => ?_
  constructor
  · intro h
    obtain ⟨mark, hmark, hs⟩ := exists_mark s
    exact ⟨_, hmark, _, hs, (accumulate?_zero_eq_some_iff (hradices _ hmark)).1 h⟩
  · rintro ⟨form, hform, digits, rfl, hspells⟩
    rw [announcedRadix_append hform hspells]
    exact (accumulate?_zero_eq_some_iff (hradices _ hform)).2 hspells

end Courier.Numeral
