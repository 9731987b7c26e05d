import Courier.Text.Cut
import Mathlib.Data.List.Basic
import Mathlib.Data.List.TakeWhile

/-!
Text as its bytes, text that reading leaves as it is, without blanks at its ends and without pairs
in front, and the pieces that cutting leaves; and when a result that is mapped succeeds.
-/
namespace Courier

section Result

variable {ε α β : Type} {f : α → β} {x : Except ε α}

theorem Except.map_eq_ok_iff {b : β} : x.map f = .ok b ↔ ∃ a, x = .ok a ∧ f a = b := by
  cases x <;> simp [Except.map]

theorem Except.map_eq_error_iff {e : ε} : x.map f = .error e ↔ x = .error e := by
  cases x <;> simp [Except.map]

end Result

namespace Text

private theorem toList_loop (b : ByteArray) (i : Nat) (front : List UInt8) :
    ByteArray.toList.loop b i front = front.reverse ++ b.data.toList.drop i := by
  fun_induction ByteArray.toList.loop b i front with
  | case1 i front hlt ih =>
    have hlength : i < b.data.toList.length := by simpa using hlt
    have hget : b.get! i = b.data.toList[i] := by
      have hdata : b.get! i = b.data[i]! := by cases b; rfl
      rw [hdata, getElem!_pos b.data i hlt]
      rfl
    rw [ih, hget, List.drop_eq_getElem_cons hlength]
    simp
  | case2 i front hlt =>
    rw [List.drop_eq_nil_of_le (by simpa using Nat.le_of_not_lt hlt)]
    simp

theorem toList_eq_data_toList (b : ByteArray) : b.toList = b.data.toList := by
  change ByteArray.toList.loop b 0 [] = _
  rw [toList_loop]
  rfl

/-- The bytes of a text are those of its characters. -/
theorem toList_toUTF8 (s : List Char) :
    (String.ofList s).toUTF8.toList = s.flatMap String.utf8EncodeChar := by
  rw [toList_eq_data_toList]
  simp [String.toUTF8, List.utf8Encode]

/-- The bytes of a text are read as the text. -/
theorem fromUTF8?_toUTF8 (s : String) :
    String.fromUTF8? ⟨s.toUTF8.toList.toArray⟩ = some s := by
  rw [toList_eq_data_toList, Array.toArray_toList]
  exact dif_pos s.isValidUTF8

theorem fromUTF8?_eq_some_iff {bytes : List UInt8} {s : String} :
    String.fromUTF8? ⟨bytes.toArray⟩ = some s ↔ bytes = s.toUTF8.toList := by
  constructor
  · intro h
    unfold String.fromUTF8? at h
    split at h
    · next hvalid =>
      have hs : String.fromUTF8 ⟨bytes.toArray⟩ hvalid = s := Option.some.inj h
      rw [← hs, toList_eq_data_toList]
      rfl
    · cases h
  · intro h
    rw [h, fromUTF8?_toUTF8]

/-- An ASCII character is one byte. -/
theorem utf8EncodeChar_of_ascii {c : Char} (h : c.toNat < 128) :
    String.utf8EncodeChar c = [UInt8.ofNat c.toNat] := by
  rw [String.utf8EncodeChar_eq_singleton]
  · rfl
  · exact Char.utf8Size_eq_one_iff.2 (UInt32.le_iff_toNat_le.2 (Nat.le_of_lt_succ h))

theorem toNat_ofNat_of_ascii {c : Char} (h : c.toNat < 128) :
    (UInt8.ofNat c.toNat).toNat = c.toNat :=
  UInt8.toNat_ofNat_of_lt (Nat.lt_trans h (by decide))

/-- What holds of the ASCII characters one by one. -/
theorem forall_ascii {p : Char → Prop} (h : ∀ n < 128, p (Char.ofNat n)) {c : Char}
    (hc : c.toNat < 128) : p c :=
  Char.ofNat_toNat c ▸ h c.toNat hc

/-- Lower case within ASCII neither leaves ASCII nor leads into it. -/
theorem toNat_lowerAscii_lt_iff {c : Char} : (lowerAscii c).toNat < 128 ↔ c.toNat < 128 := by
  by_cases hc : c.toNat < 128
  · have hlower : (lowerAscii c).toNat < 128 :=
      forall_ascii (p := fun c => (lowerAscii c).toNat < 128) (by decide) hc
    exact iff_of_true hlower hc
  · have hupper : ¬ ('A' ≤ c ∧ c ≤ 'Z') := by
      rintro ⟨-, hle⟩
      have hz : c.toNat ≤ 90 := UInt32.le_iff_toNat_le.1 hle
      omega
    rw [lowerAscii, if_neg hupper]

/-- ASCII characters are told by their bytes. -/
theorem map_ofNat_map_toNat {s : List Char} (h : ∀ c ∈ s, c.toNat < 128) :
    (s.map fun c => UInt8.ofNat c.toNat).map (fun b => Char.ofNat b.toNat) = s := by
  rw [List.map_map]
  refine (List.map_congr_left fun c hc => ?_).trans (List.map_id s)
  rw [Function.comp_apply, toNat_ofNat_of_ascii (h c hc), Char.ofNat_toNat]
  rfl

theorem toList_toUTF8_of_ascii {s : List Char} (h : ∀ c ∈ s, c.toNat < 128) :
    (String.ofList s).toUTF8.toList = s.map fun c => UInt8.ofNat c.toNat := by
  rw [toList_toUTF8]
  induction s with
  | nil => rfl
  | cons c s ih =>
    rw [List.flatMap_cons, utf8EncodeChar_of_ascii (h c List.mem_cons_self),
      ih fun d hd => h d (List.mem_cons_of_mem c hd)]
    rfl

/-- A text is ASCII when its bytes are. -/
theorem ascii_of_toUTF8 {s : List Char}
    (h : ∀ b ∈ (String.ofList s).toUTF8.toList, b.toNat < 128) : ∀ c ∈ s, c.toNat < 128 := by
  intro c hc
  have hbytes : ∀ b ∈ String.utf8EncodeChar c, b.toNat < 128 := by
    intro b hb
    rw [toList_toUTF8] at h
    exact h b (List.mem_flatMap_of_mem hc hb)
  -- The first byte of a longer form is at least 192.
  by_contra hlarge
  have hval : ¬ c.val.toNat ≤ 127 := by
    intro hle
    exact hlarge (Nat.lt_succ_of_le hle)
  unfold String.utf8EncodeChar at hbytes
  simp only [if_neg hval] at hbytes
  split at hbytes
  · have := hbytes _ List.mem_cons_self
    rw [UInt8.toNat_ofNat'] at this
    omega
  · split at hbytes
    · have := hbytes _ List.mem_cons_self
      rw [UInt8.toNat_ofNat'] at this
      omega
    · have := hbytes _ List.mem_cons_self
      rw [UInt8.toNat_ofNat'] at this
      omega

theorem stripEnds_eq_self {drop : Char → Bool} {s : List Char} (h : ∀ c ∈ s, drop c = false) :
    stripEnds drop s = s := by
  have hkeep {l : List Char} (hl : ∀ c ∈ l, drop c = false) : l.dropWhile drop = l := by
    cases l with
    | nil => rfl
    | cons c l => exact List.dropWhile_cons_of_neg (by simp [hl c List.mem_cons_self])
  unfold stripEnds
  rw [hkeep h, hkeep fun c hc => h c (List.mem_reverse.1 hc), List.reverse_reverse]

/-- Text without blanks is not trimmed. -/
theorem trim_eq_self {s : List Char} (h : ∀ c ∈ s, isBlank c = false) : trim s = s :=
  stripEnds_eq_self h

/-- What is stripped are runs at the two ends. -/
theorem exists_stripEnds (drop : Char → Bool) (s : List Char) :
    ∃ a b, s = a ++ (stripEnds drop s ++ b) ∧ (∀ c ∈ a, drop c = true) ∧
      ∀ c ∈ b, drop c = true := by
  -- The front goes first; what is left loses its end when it is read backwards.
  have hfront := List.takeWhile_append_dropWhile (p := drop) (l := s)
  have hback := List.takeWhile_append_dropWhile (p := drop) (l := (s.dropWhile drop).reverse)
  refine ⟨s.takeWhile drop, ((s.dropWhile drop).reverse.takeWhile drop).reverse, ?_,
    fun c hc => List.mem_takeWhile_imp hc,
    fun c hc => List.mem_takeWhile_imp (List.mem_reverse.1 hc)⟩
  unfold stripEnds
  rw [← List.reverse_append, hback, List.reverse_reverse, hfront]

theorem stripEnds_append {drop : Char → Bool} {a b : List Char} (ha : ∀ c ∈ a, drop c = true)
    (hb : ∀ c ∈ b, drop c = true) (s : List Char) :
    stripEnds drop (a ++ (s ++ b)) = stripEnds drop s := by
  have hreverse : ∀ c ∈ b.reverse, drop c = true := fun c hc => hb c (List.mem_reverse.1 hc)
  unfold stripEnds
  rw [List.dropWhile_append_of_pos ha, List.dropWhile_append]
  split
  case isTrue hempty =>
    rw [List.isEmpty_iff.1 hempty, List.dropWhile_eq_nil_iff.2 hb]
  case isFalse => rw [List.reverse_append, List.dropWhile_append_of_pos hreverse]

theorem trim_eq_nil_iff {s : List Char} : trim s = [] ↔ ∀ c ∈ s, isBlank c = true := by
  constructor
  · intro h
    obtain ⟨a, b, hs, ha, hb⟩ := exists_stripEnds isBlank s
    change stripEnds isBlank s = [] at h
    rw [h, List.nil_append] at hs
    rw [hs]
    exact List.forall_mem_append.2 ⟨ha, hb⟩
  · intro h
    have hstrip := stripEnds_append h (fun c hc => absurd hc List.not_mem_nil) []
    rw [List.append_nil, List.append_nil] at hstrip
    exact hstrip

theorem dropPairs_eq_self {a b : Char} {s : List Char} (h : b ∉ s) : dropPairs a b s = s := by
  unfold dropPairs
  split
  case h_1 c d rest =>
    have hne : d ≠ b := fun heq => h (by simp [heq])
    rw [if_neg fun hcd => hne hcd.2]
  case h_2 => rfl

theorem cutAt_eq_none_iff {sep : Char} {s : List Char} : cutAt sep s = none ↔ sep ∉ s := by
  induction s with
  | nil => simp [cutAt]
  | cons c s ih =>
    unfold cutAt
    by_cases hc : c = sep
    · simp [hc]
    · rw [if_neg hc, Option.map_eq_none_iff, ih, List.mem_cons, not_or]
      exact ⟨fun h => ⟨Ne.symm hc, h⟩, And.right⟩

theorem cutAt_eq_some_iff {sep : Char} {s a b : List Char} :
    cutAt sep s = some (a, b) ↔ s = a ++ sep :: b ∧ sep ∉ a := by
  constructor
  · intro h
    induction s generalizing a with
    | nil => simp [cutAt] at h
    | cons c s ih =>
      simp only [cutAt] at h
      split at h
      case isTrue hc =>
        simp only [Option.some.injEq, Prod.mk.injEq] at h
        simp [← h.1, ← h.2, hc]
      case isFalse hc =>
        obtain ⟨⟨a', b'⟩, hs, hab⟩ := Option.map_eq_some_iff.1 h
        simp only [Prod.mk.injEq] at hab
        obtain ⟨hsplit, hnone⟩ := ih (hab.2 ▸ hs)
        rw [← hab.1, List.mem_cons, not_or]
        exact ⟨congrArg (c :: ·) hsplit, Ne.symm hc, hnone⟩
  · rintro ⟨rfl, h⟩
    exact cutAt_append h b

theorem after?_eq_some_iff {start s rest : List Char} :
    after? start s = some rest ↔ s = start ++ rest := by
  constructor
  · intro h
    induction start generalizing s with
    | nil => exact Option.some.inj h
    | cons a start ih =>
      cases s with
      | nil => simp [after?] at h
      | cons c s =>
        simp only [after?, Option.ite_none_right_eq_some] at h
        rw [List.cons_append, h.1, ih h.2]
  · rintro rfl
    exact after?_append start rest

theorem after?_eq_none_iff {start s : List Char} :
    after? start s = none ↔ ∀ rest, s ≠ start ++ rest := by
  simp only [Option.eq_none_iff_forall_ne_some, ne_eq, after?_eq_some_iff]

/-- As many pairs as there are in front of a text that does not begin with one. -/
theorem dropPairs_eq_iff {a b : Char} {s rest : List Char} :
    dropPairs a b s = rest ↔
      ¬ [a, b] <+: rest ∧ ∃ n, s = (List.replicate n [a, b]).flatten ++ rest := by
  constructor
  · rintro rfl
    fun_induction dropPairs a b s with
    | case1 c d s h ih =>
      obtain ⟨hrest, n, hn⟩ := ih
      refine ⟨hrest, n + 1, ?_⟩
      rw [h.1, h.2, List.replicate_succ, List.flatten_cons, List.append_assoc, ← hn]
      rfl
    | case2 c d s h =>
      refine ⟨?_, 0, rfl⟩
      simpa [eq_comm] using h
    | case3 s h =>
      refine ⟨?_, 0, rfl⟩
      rintro ⟨t, rfl⟩
      exact h a b t rfl
  · rintro ⟨hrest, n, rfl⟩
    induction n with
    | zero =>
      unfold dropPairs
      split
      case h_1 c d t heq =>
        have hrest_eq : rest = c :: d :: t := heq
        rw [if_neg fun hcd => hrest ⟨t, by rw [hrest_eq, hcd.1, hcd.2]; rfl⟩, hrest_eq]
      case h_2 => rfl
    | succ n ih =>
      rw [List.replicate_succ, List.flatten_cons, List.append_assoc]
      simpa [dropPairs] using ih

end Text
end Courier
