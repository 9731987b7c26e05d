import Courier.Proofs.Argument.Value
import Courier.Proofs.Numeral.Reading

/-!
Which texts are read as argument values of each type, and what is reported of the others.
-/
namespace Courier.ArgumentValue

def typeWords : List String :=
  ["bool", "u8", "u32", "u64", "u128", "u256", "u512", "string", "key", "bytes"]

/-- How a value may be written after the word for its type. -/
def Written (raw : List Char) : ArgumentValue → Prop
  | bool v => raw = (if v then "true" else "false").toList
  | u8 v => Numeral.Plain raw v.toNat
  | u32 v => Numeral.Plain raw v.toNat
  | u64 v => Numeral.Plain raw v.toNat
  | u128 v => Numeral.Plain raw v.toNat
  | u256 v => Numeral.Wide raw v.toNat
  | u512 v => Numeral.Wide raw v.toNat
  | string v => raw = v.toList
  | key v => v.Spelled raw
  | bytes v => ∃ n, ∃ mark ∈ [[], "0X".toList], ∃ digits,
    raw = (List.replicate n "0x".toList).flatten ++ (mark ++ digits) ∧ Hex.Spells digits v

/-- What is reported of a text that writes no value of its type. -/
def Cause (word written : String) (raw : List Char) (e : ArgumentError) : Prop :=
  if word = "key" then Key.ofText raw = .error e
  else if word = "bytes" then
    ∃ cause, Hex.decode (Text.dropPairs '0' 'x' raw) = .error cause ∧ e = .badHex cause
  else e = .badValue written (String.ofList raw)

theorem elim_eq_ok_iff {ε α : Type} {x : Option α} {e : ε} {a : α} :
    x.elim (.error e) .ok = Except.ok a ↔ x = some a := by
  cases x <;> simp

theorem elim_eq_error_iff {ε α : Type} {x : Option α} {e e' : ε} :
    x.elim (.error e) .ok = Except.error e' ↔ x = none ∧ e = e' := by
  cases x <;> simp

theorem typeWord_of_ofText? {word written : String} {raw : List Char} {v : ArgumentValue}
    (h : ofText? word written raw = some (.ok v)) : v.typeWord = word := by
  unfold ofText? at h
  dsimp only at h
  split at h
  case h_8 =>
    cases h
    rfl
  case h_9 =>
    obtain ⟨k, -, rfl⟩ := Except.map_eq_ok_iff.1 (Option.some.inj h)
    rfl
  case h_10 =>
    split at h <;> cases h
    rfl
  case h_11 => cases h
  all_goals
    obtain ⟨_, -, rfl⟩ := Option.map_eq_some_iff.1 (elim_eq_ok_iff.1 (Option.some.inj h))
    rfl

theorem cause_of_ofText? {word written : String} {raw : List Char} {e : ArgumentError}
    (h : ofText? word written raw = some (.error e)) : Cause word written raw e := by
  unfold ofText? at h
  dsimp only at h
  unfold Cause
  split at h
  case h_8 => cases h
  case h_9 => exact Except.map_eq_error_iff.1 (Option.some.inj h)
  case h_10 =>
    split at h
    case h_1 => cases h
    case h_2 cause hcause =>
      cases h
      exact ⟨cause, hcause, rfl⟩
  case h_11 => cases h
  all_goals exact (elim_eq_error_iff.1 (Option.some.inj h)).2.symm

theorem ofText?_eq_none_iff {word written : String} {raw : List Char} :
    ofText? word written raw = none ↔ word ∉ typeWords := by
  unfold ofText? typeWords
  dsimp only
  split
  case h_10 => split <;> simp
  case h_11 => simp_all
  all_goals simp

theorem Cause.unique {word written : String} {raw : List Char} {e e' : ArgumentError}
    (h : Cause word written raw e) (h' : Cause word written raw e') : e = e' := by
  unfold Cause at h h'
  split_ifs at h h' with hkey hbytes
  · exact Except.error.inj (h.symm.trans h')
  · obtain ⟨cause, hcause, rfl⟩ := h
    obtain ⟨cause', hcause', rfl⟩ := h'
    rw [Except.error.inj (hcause.symm.trans hcause')]
  · rw [h, h']

theorem bool?_eq_some_iff {s : List Char} {v : Bool} :
    bool? s = some v ↔ s = (if v then "true" else "false").toList := by
  unfold bool?
  by_cases htrue : s = "true".toList
  · rw [if_pos htrue, htrue]
    cases v <;> simp
  · rw [if_neg htrue]
    cases v with
    | true => exact iff_of_false (by split <;> simp) htrue
    | false => rw [Option.ite_none_right_eq_some]; simp

/-- A word of some bits is read where its number is. -/
theorem ofNumber_eq_ok_iff {α : Type} {read : Option Nat} {p : Nat → Prop} {bits : Nat}
    {ofNat : Nat → α} {toNat : α → Nat} {inject : α → ArgumentValue} {e : ArgumentError}
    (hread : ∀ n, read = some n ↔ p n ∧ n < 2 ^ bits) (hlt : ∀ a, toNat a < 2 ^ bits)
    (hof : ∀ a, ofNat (toNat a) = a) (hto : ∀ n < 2 ^ bits, toNat (ofNat n) = n)
    (hinject : ∀ a b, inject a = inject b ↔ a = b) (v : α) :
    some ((read.map fun n => inject (ofNat n)).elim (.error e) .ok) = some (Except.ok (inject v)) ↔
      p (toNat v) := by
  rw [Option.some.injEq, elim_eq_ok_iff, Option.map_eq_some_iff]
  constructor
  · rintro ⟨n, hn, heq⟩
    obtain ⟨hp, hbound⟩ := (hread n).1 hn
    rw [← (hinject _ _).1 heq, hto n hbound]
    exact hp
  · intro hp
    exact ⟨toNat v, (hread _).2 ⟨hp, hlt v⟩, congrArg inject (hof v)⟩

theorem ofBits_eq_ok_iff {w : Nat} {read : Option Nat} {p : Nat → Prop}
    {inject : BitVec w → ArgumentValue} {e : ArgumentError}
    (hread : ∀ n, read = some n ↔ p n ∧ n < 2 ^ w)
    (hinject : ∀ a b, inject a = inject b ↔ a = b) (v : BitVec w) :
    some ((read.map fun n => inject (BitVec.ofNat w n)).elim (.error e) .ok) =
      some (Except.ok (inject v)) ↔ p v.toNat :=
  ofNumber_eq_ok_iff hread BitVec.isLt (fun _ => by simp)
    (fun _ hn => by simp [Nat.mod_eq_of_lt hn]) hinject v

/-- Bytes are read after any marks in lower case and at most one in upper case. -/
theorem decode_dropPairs_eq_ok_iff {raw : List Char} {v : List UInt8} :
    Hex.decode (Text.dropPairs '0' 'x' raw) = .ok v ↔ Written raw (.bytes v) := by
  rw [Hex.decode_eq_ok_iff]
  constructor
  · rintro ⟨mark, hmark, digits, hdrop, hspells⟩
    obtain ⟨hmarked, n, hraw⟩ := Text.dropPairs_eq_iff.1 hdrop
    have hupper : mark ∈ [[], "0X".toList] := by
      simp only [Hex.marks, List.mem_cons, List.not_mem_nil, or_false] at hmark
      rcases hmark with rfl | rfl | rfl
      · simp
      · exact absurd ⟨digits, rfl⟩ hmarked
      · simp
    exact ⟨n, mark, hupper, digits, hraw, hspells⟩
  · rintro ⟨n, mark, hmark, digits, hraw, hspells⟩
    have hx : 'x' ∉ digits := fun hmem => absurd (hspells.isDigit 'x' hmem) (by decide)
    have hmarked : ¬ ['0', 'x'] <+: mark ++ digits := by
      simp only [List.mem_cons, List.not_mem_nil, or_false] at hmark
      rintro ⟨t, ht⟩
      rcases hmark with rfl | rfl
      · have hdigits : ['0', 'x'] ++ t = digits := ht
        exact hx (hdigits ▸ List.mem_append_left t (by simp))
      · exact absurd (List.cons.inj (List.cons.inj ht).2).1 (by decide)
    have hmem : mark ∈ Hex.marks := by
      have hsub : ∀ mark ∈ [[], "0X".toList], mark ∈ Hex.marks := by decide
      exact hsub mark hmark
    exact ⟨mark, hmem, digits, Text.dropPairs_eq_iff.2 ⟨hmarked, n, hraw⟩, hspells⟩

theorem ofText?_typeWord_eq_ok_iff {v : ArgumentValue} {written : String} {raw : List Char} :
    ofText? v.typeWord written raw = some (.ok v) ↔ v.Written raw := by
  cases v with
  | bool v =>
    simp only [ofText?, typeWord, Option.some.injEq, elim_eq_ok_iff, Option.map_eq_some_iff,
      bool?_eq_some_iff, bool.injEq, exists_eq_right, Written]
  | u8 v =>
    exact ofNumber_eq_ok_iff (fun _ => Numeral.unsignedBits?_eq_some_iff) UInt8.toNat_lt
      (fun _ => UInt8.ofNat_toNat) (fun _ => UInt8.toNat_ofNat_of_lt) (fun _ _ => by simp) v
  | u32 v =>
    exact ofNumber_eq_ok_iff (fun _ => Numeral.unsignedBits?_eq_some_iff) UInt32.toNat_lt
      (fun _ => UInt32.ofNat_toNat) (fun _ => UInt32.toNat_ofNat_of_lt) (fun _ _ => by simp) v
  | u64 v =>
    exact ofNumber_eq_ok_iff (fun _ => Numeral.unsignedBits?_eq_some_iff) UInt64.toNat_lt
      (fun _ => UInt64.ofNat_toNat) (fun _ => UInt64.toNat_ofNat_of_lt) (fun _ _ => by simp) v
  | u128 v =>
    exact ofBits_eq_ok_iff (fun _ => Numeral.unsignedBits?_eq_some_iff) (fun _ _ => by simp) v
  | u256 v =>
    exact ofBits_eq_ok_iff (fun _ => Numeral.wide?_eq_some_iff) (fun _ _ => by simp) v
  | u512 v =>
    exact ofBits_eq_ok_iff (fun _ => Numeral.wide?_eq_some_iff) (fun _ _ => by simp) v
  | string v =>
    simp only [ofText?, typeWord, Option.some.injEq, Except.ok.injEq, string.injEq, Written]
    exact ⟨fun h => h ▸ String.toList_ofList.symm, fun h => h ▸ String.ofList_toList⟩
  | key v =>
    simp only [ofText?, typeWord, Option.some.injEq, Except.map_eq_ok_iff, Key.ofText_eq_ok_iff,
      key.injEq, exists_eq_right, Written]
  | bytes v =>
    rw [← decode_dropPairs_eq_ok_iff]
    unfold ofText?
    simp only [typeWord]
    split <;> simp_all

/-- A text is read as a value when the word is the one for its type and the text is one of its
forms. -/
theorem ofText?_eq_ok_iff {word written : String} {raw : List Char} {v : ArgumentValue} :
    ofText? word written raw = some (.ok v) ↔ word = v.typeWord ∧ v.Written raw := by
  constructor
  · intro h
    have hword := typeWord_of_ofText? h
    rw [← hword] at h
    exact ⟨hword.symm, ofText?_typeWord_eq_ok_iff.1 h⟩
  · rintro ⟨rfl, h⟩
    exact ofText?_typeWord_eq_ok_iff.2 h

theorem Written.unique {v v' : ArgumentValue} {raw : List Char} (hword : v.typeWord = v'.typeWord)
    (h : v.Written raw) (h' : v'.Written raw) : v = v' := by
  have hread : ofText? v.typeWord "" raw = some (.ok v) := ofText?_typeWord_eq_ok_iff.2 h
  rw [hword, ofText?_typeWord_eq_ok_iff.2 h'] at hread
  exact (Except.ok.inj (Option.some.inj hread)).symm

/-- Of a text without a form of its type, the cause is reported. -/
theorem ofText?_eq_error_iff {word written : String} {raw : List Char} {e : ArgumentError} :
    ofText? word written raw = some (.error e) ↔
      word ∈ typeWords ∧ (∀ v : ArgumentValue, v.typeWord = word → ¬ v.Written raw) ∧
        Cause word written raw e := by
  constructor
  · intro h
    refine ⟨?_, ?_, cause_of_ofText? h⟩
    · by_contra hunknown
      rw [ofText?_eq_none_iff.2 hunknown] at h
      cases h
    · rintro v rfl hwritten
      rw [ofText?_typeWord_eq_ok_iff.2 hwritten] at h
      cases h
  · rintro ⟨hknown, hnone, hcause⟩
    cases hread : ofText? word written raw with
    | none => exact absurd hknown (ofText?_eq_none_iff.1 hread)
    | some result =>
      cases result with
      | ok v =>
        obtain ⟨hword, hwritten⟩ := ofText?_eq_ok_iff.1 hread
        exact absurd hwritten (hnone v hword.symm)
      | error e' => rw [(cause_of_ofText? hread).unique hcause]

end Courier.ArgumentValue
