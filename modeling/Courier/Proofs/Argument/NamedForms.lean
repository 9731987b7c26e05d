import Courier.Proofs.Argument.Named
import Courier.Proofs.Argument.ValueForms

/-!
Which texts are read as named arguments, and what is reported of the others: first a text without
the three parts, then a type that does not exist, then a value that is none of its type.
-/
namespace Courier.NamedArgument

structure Parts (s name type raw : String) : Prop where
  text_eq : s = name ++ ":" ++ type ++ "=" ++ raw
  name_ne : name ≠ ""
  colon_not_mem : ':' ∉ name.toList
  equals_not_mem : '=' ∉ name.toList
  equals_not_mem_type : '=' ∉ type.toList

/-- A text that has no parts: without an equals sign, or with no colon before the first one, or
with nothing before that. -/
def Unparted (s : String) : Prop :=
  '=' ∉ s.toList ∨ ∃ head raw, s.toList = head ++ '=' :: raw ∧ '=' ∉ head ∧
    (':' ∉ head ∨ ∃ type, head = ':' :: type)

def lowered (type : String) : String :=
  String.ofList (type.toList.map Text.lowerAscii)

theorem parts?_eq_some_iff {s name type raw : String} :
    parts? s.toList = some (name.toList, type.toList, raw.toList) ↔ Parts s name type raw := by
  constructor
  · intro h
    unfold parts? at h
    split at h
    case h_1 => cases h
    case h_2 head value hequals =>
      split at h
      case h_1 => cases h
      case h_2 name' type' hcolon =>
        rw [Option.ite_none_left_eq_some] at h
        obtain ⟨hne, hparts⟩ := h
        simp only [Option.some.injEq, Prod.mk.injEq] at hparts
        obtain ⟨rfl, rfl, rfl⟩ := hparts
        obtain ⟨hs, hhead⟩ := Text.cutAt_eq_some_iff.1 hequals
        obtain ⟨rfl, hname⟩ := Text.cutAt_eq_some_iff.1 hcolon
        simp only [List.mem_append, List.mem_cons, not_or] at hhead
        refine ⟨?_, ?_, hname, hhead.1, hhead.2.2⟩
        · apply String.toList_inj.1
          rw [hs]
          simp
        · rintro rfl
          exact hne rfl
  · intro h
    have hhead : '=' ∉ name.toList ++ ':' :: type.toList := by
      simp [h.equals_not_mem, h.equals_not_mem_type]
    have hname : name.toList ≠ [] := by simpa using h.name_ne
    have hs : s.toList = name.toList ++ ':' :: type.toList ++ '=' :: raw.toList := by
      rw [h.text_eq]
      simp
    rw [hs]
    exact parts?_append raw.toList hname h.colon_not_mem hhead

/-- A text without parts cannot be cut, or has nothing in front of its first colon. -/
theorem unparted_iff_cutAt {s : String} :
    Unparted s ↔ Text.cutAt '=' s.toList = none ∨ ∃ head raw,
      Text.cutAt '=' s.toList = some (head, raw) ∧
        (Text.cutAt ':' head = none ∨ ∃ type, Text.cutAt ':' head = some ([], type)) := by
  simp only [Unparted, Text.cutAt_eq_none_iff, Text.cutAt_eq_some_iff, List.nil_append,
    List.not_mem_nil, not_false_eq_true, and_true, and_assoc]

theorem parts?_eq_none_iff {s : String} : parts? s.toList = none ↔ Unparted s := by
  rw [unparted_iff_cutAt]
  unfold parts?
  cases hequals : Text.cutAt '=' s.toList with
  | none => simp
  | some cut =>
    obtain ⟨head, raw⟩ := cut
    cases hcolon : Text.cutAt ':' head with
    | none => simp [hcolon]
    | some cut' =>
      obtain ⟨name, type⟩ := cut'
      simp [hcolon]

theorem unparted_or_parts (s : String) :
    Unparted s ∨ ∃ name type raw, Parts s name type raw := by
  cases hparts : parts? s.toList with
  | none => exact .inl (parts?_eq_none_iff.1 hparts)
  | some cut =>
    obtain ⟨name, type, raw⟩ := cut
    refine .inr ⟨String.ofList name, String.ofList type, String.ofList raw, ?_⟩
    apply parts?_eq_some_iff.1
    simp only [String.toList_ofList, hparts]

theorem Parts.unique {s name type raw name' type' raw' : String} (h : Parts s name type raw)
    (h' : Parts s name' type' raw') : name = name' ∧ type = type' ∧ raw = raw' := by
  have hparts := parts?_eq_some_iff.2 h
  rw [parts?_eq_some_iff.2 h'] at hparts
  simp only [Option.some.injEq, Prod.mk.injEq, String.toList_inj] at hparts
  exact ⟨hparts.1.symm, hparts.2.1.symm, hparts.2.2.symm⟩

theorem ofText_of_parts {s name type raw : String} (h : Parts s name type raw) :
    ofText s = match ArgumentValue.ofText? (lowered type) type raw.toList with
      | none => .error (.unknownType (lowered type))
      | some v => v.map fun v => ⟨name, v⟩ := by
  unfold ofText
  rw [parts?_eq_some_iff.2 h]
  simp only [String.ofList_toList]
  rfl

theorem ofText_of_unparted {s : String} (h : Unparted s) : ofText s = .error (.malformed s) := by
  unfold ofText
  rw [parts?_eq_none_iff.2 h]

/-- Named arguments are read from a name, the word for a type and a form of that type. -/
theorem ofText_eq_ok_iff {s : String} {a : NamedArgument} :
    ofText s = .ok a ↔ ∃ type raw, Parts s a.name type raw ∧
      lowered type = a.value.typeWord ∧ a.value.Written raw.toList := by
  constructor
  · intro h
    rcases unparted_or_parts s with hnone | ⟨name, type, raw, hparts⟩
    · rw [ofText_of_unparted hnone] at h
      cases h
    · rw [ofText_of_parts hparts] at h
      split at h
      case h_1 => cases h
      case h_2 result hresult =>
        obtain ⟨v, rfl, rfl⟩ := Except.map_eq_ok_iff.1 h
        exact ⟨type, raw, hparts, ArgumentValue.ofText?_eq_ok_iff.1 hresult⟩
  · rintro ⟨type, raw, hparts, hvalue⟩
    rw [ofText_of_parts hparts, ArgumentValue.ofText?_eq_ok_iff.2 hvalue]
    rfl

theorem ofText_eq_error_iff {s : String} {e : ArgumentError} :
    ofText s = .error e ↔
      (Unparted s ∧ e = .malformed s) ∨
      (∃ name type raw, Parts s name type raw ∧ lowered type ∉ ArgumentValue.typeWords ∧
        e = .unknownType (lowered type)) ∨
      ∃ name type raw, Parts s name type raw ∧ lowered type ∈ ArgumentValue.typeWords ∧
        (∀ v : ArgumentValue, v.typeWord = lowered type → ¬ v.Written raw.toList) ∧
        ArgumentValue.Cause (lowered type) type raw.toList e := by
  constructor
  · intro h
    rcases unparted_or_parts s with hnone | ⟨name, type, raw, hparts⟩
    · rw [ofText_of_unparted hnone] at h
      exact .inl ⟨hnone, (Except.error.inj h).symm⟩
    · rw [ofText_of_parts hparts] at h
      split at h
      case h_1 hunknown =>
        exact .inr (.inl ⟨name, type, raw, hparts, ArgumentValue.ofText?_eq_none_iff.1 hunknown,
          (Except.error.inj h).symm⟩)
      case h_2 result hresult =>
        rw [Except.map_eq_error_iff.1 h] at hresult
        exact .inr (.inr ⟨name, type, raw, hparts, ArgumentValue.ofText?_eq_error_iff.1 hresult⟩)
  · rintro (⟨hnone, rfl⟩ | ⟨name, type, raw, hparts, hunknown, rfl⟩ |
      ⟨name, type, raw, hparts, hrefused⟩)
    · exact ofText_of_unparted hnone
    · rw [ofText_of_parts hparts, ArgumentValue.ofText?_eq_none_iff.2 hunknown]
    · rw [ofText_of_parts hparts, ArgumentValue.ofText?_eq_error_iff.2 hrefused]
      rfl

/-- Exactly the texts of the form `name:type=value` are read, where the name is there and holds
neither separator, the type is one of ten words in any case, and the value is written in a form of
its type, which for byte strings ends in an even number of hexadecimal digits; there is one way to
cut a text like this, and it determines the value. Of other texts is reported, in this order, that
they have no such parts, that there is no such type, or what is wrong with the value. -/
theorem ofText_classified (s : String) :
    (∀ a, ofText s = .ok a ↔ ∃ type raw, Parts s a.name type raw ∧
      lowered type = a.value.typeWord ∧ a.value.Written raw.toList) ∧
    (∀ name type raw name' type' raw', Parts s name type raw → Parts s name' type' raw' →
      name = name' ∧ type = type' ∧ raw = raw') ∧
    (∀ (v v' : ArgumentValue) (raw : List Char), v.typeWord = v'.typeWord → v.Written raw →
      v'.Written raw → v = v') ∧
    (∀ digits, (∃ bytes, Hex.Spells digits bytes) ↔
      digits.length % 2 = 0 ∧ ∀ c ∈ digits, Hex.IsDigit c) ∧
    ∀ e, ofText s = .error e ↔
      (Unparted s ∧ e = .malformed s) ∨
      (∃ name type raw, Parts s name type raw ∧ lowered type ∉ ArgumentValue.typeWords ∧
        e = .unknownType (lowered type)) ∨
      ∃ name type raw, Parts s name type raw ∧ lowered type ∈ ArgumentValue.typeWords ∧
        (∀ v : ArgumentValue, v.typeWord = lowered type → ¬ v.Written raw.toList) ∧
        ArgumentValue.Cause (lowered type) type raw.toList e := by
  refine ⟨fun a => ofText_eq_ok_iff, ?_, ?_, Hex.exists_spells_iff_even,
    fun e => ofText_eq_error_iff⟩
  · intro name type raw name' type' raw' h h'
    exact h.unique h'
  · intro v v' raw hword h h'
    exact ArgumentValue.Written.unique hword h h'

def upperMarkedBytes : String :=
  "b:bytes=0Xab"

theorem parts_upperMarkedBytes : Parts upperMarkedBytes "b" "bytes" "0Xab" :=
  ⟨by decide, by decide, by decide, by decide, by decide⟩

/-- A mark in upper case is accepted in front of the digits of a byte string. -/
theorem upper_mark_accepted_in_bytes :
    ofText upperMarkedBytes = .ok ⟨"b", .bytes [0xab]⟩ ∧
      ∀ name type raw, Parts upperMarkedBytes name type raw → lowered type = "bytes" ∧
        ¬ ∃ n digits, raw.toList = (List.replicate n "0x".toList).flatten ++ digits ∧
          digits.length % 2 = 0 ∧ ∀ c ∈ digits, Hex.IsDigit c := by
  constructor
  · exact ofText_eq_ok_iff.2 ⟨"bytes", "0Xab", parts_upperMarkedBytes, by decide,
      0, "0X".toList, by decide, "ab".toList, rfl, rfl⟩
  · intro name type raw hparts
    obtain ⟨-, rfl, rfl⟩ := parts_upperMarkedBytes.unique hparts
    refine ⟨by decide, ?_⟩
    rintro ⟨n, digits, hraw, -, hdigits⟩
    have hmem : 'X' ∈ (List.replicate n "0x".toList).flatten ++ digits := hraw ▸ by decide
    rcases List.mem_append.1 hmem with hmem | hmem
    · obtain ⟨mark, hmark, hX⟩ := List.mem_flatten.1 hmem
      rw [List.eq_of_mem_replicate hmark] at hX
      exact absurd hX (by decide)
    · exact absurd (hdigits 'X' hmem) (by decide)

/-- A number with a plus sign and a leading zero, its type in upper case. -/
theorem ofText_classified_plus :
    Parts "n:U8=+09" "n" "U8" "+09" ∧ ofText "n:U8=+09" = .ok ⟨"n", .u8 9⟩ ∧
      (∀ name type raw, Parts "n:U8=+09" name type raw →
        "n" = name ∧ "U8" = type ∧ "+09" = raw) ∧
      ArgumentValue.Written "+09".toList (.u8 9) ∧
      ∀ v : ArgumentValue, v.typeWord = "u8" → v.Written "+09".toList → v = .u8 9 := by
  have hparts : Parts "n:U8=+09" "n" "U8" "+09" :=
    ⟨by decide, by decide, by decide, by decide, by decide⟩
  have hwritten : ArgumentValue.Written "+09".toList (.u8 9) :=
    ⟨"09".toList, .inr (by decide), by decide, [0, 9], by decide, by decide, by decide⟩
  obtain ⟨hread, hunique, hvalue, -⟩ := ofText_classified "n:U8=+09"
  exact ⟨hparts, (hread _).2 ⟨"U8", "+09", hparts, by decide, hwritten⟩,
    fun _ _ _ h => hunique _ _ _ _ _ _ hparts h, hwritten,
    fun v hword h => hvalue v (.u8 9) _ hword h hwritten⟩

end Courier.NamedArgument
