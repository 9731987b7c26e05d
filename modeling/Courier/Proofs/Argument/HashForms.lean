import Courier.Argument.Hash
import Courier.Proofs.Hex.Reading

/-!
Which texts are read as contract hashes and as keys, and how far the two readers agree. A value is
written in one form, which is read back.
-/
namespace Courier

theorem Digest.ofText_toHex (d : Digest) : Digest.ofText d.toHex = .ok d := by
  unfold Digest.ofText Digest.toHex
  rw [Hex.decode_encode]
  exact dif_pos d.length_eq

/-- A mark without blanks and the digits after it are all of a written hash. -/
theorem trim_append_toHex {mark : List Char} (h : mark.any Text.isBlank = false)
    (d : Digest) : Text.trim (mark ++ d.toHex) = mark ++ d.toHex := by
  refine Text.trim_eq_self fun c hc => ?_
  rcases List.mem_append.1 hc with hmark | hdigit
  · exact Bool.eq_false_iff.2 (List.any_eq_false.1 h c hmark)
  · exact (Hex.encode_plain d.bytes c hdigit).2.1

theorem Key.ofText_toText (k : Key) : Key.ofText k.toText.toList = .ok k := by
  cases k with
  | account d =>
    unfold toText ofText
    rw [String.toList_ofList, trim_append_toHex (by decide)]
    simp only [Text.after?_append, Digest.ofText_toHex]
    rfl
  | contract d =>
    -- The two marks differ in their first letters.
    have hother : Text.after? accountMark (contractMark ++ d.toHex) = none := rfl
    unfold toText ofText
    rw [String.toList_ofList, trim_append_toHex (by decide)]
    simp only [hother, Text.after?_append, Digest.ofText_toHex]
    rfl

/-- A text for a digest: at most one mark, then digits of either case. -/
def Digest.Spelled (d : Digest) (s : List Char) : Prop :=
  ∃ mark ∈ Hex.marks, ∃ digits, s = mark ++ digits ∧ Hex.Spells digits d.bytes

/-- The form of the texts for digests: at most one mark, then 64 digits of either case. -/
def Digest.Form (s : List Char) : Prop :=
  ∃ mark ∈ Hex.marks, ∃ digits,
    s = mark ++ digits ∧ digits.length = 64 ∧ ∀ c ∈ digits, Hex.IsDigit c

theorem Digest.exists_spelled_iff {s : List Char} : (∃ d : Digest, d.Spelled s) ↔ Form s := by
  constructor
  · rintro ⟨d, mark, hmark, digits, hs, hspells⟩
    obtain ⟨hlength, hdigits⟩ := Hex.exists_spells_iff.1 ⟨d.bytes, d.length_eq, hspells⟩
    exact ⟨mark, hmark, digits, hs, hlength, hdigits⟩
  · rintro ⟨mark, hmark, digits, hs, hlength, hdigits⟩
    obtain ⟨bytes, hbytes, hspells⟩ := (Hex.exists_spells_iff (n := 32)).2 ⟨hlength, hdigits⟩
    exact ⟨⟨bytes, hbytes⟩, mark, hmark, digits, hs, hspells⟩

/-- The marks of hashes and keys hold a letter that no digest does. -/
theorem Digest.Spelled.not_mem {d : Digest} {s : List Char} (h : d.Spelled s) : 'h' ∉ s := by
  obtain ⟨mark, hmark, digits, rfl, hspells⟩ := h
  have hmarks : ∀ mark ∈ Hex.marks, 'h' ∉ mark := by decide
  intro hmem
  rcases List.mem_append.1 hmem with hmem | hmem
  · exact hmarks mark hmark hmem
  · exact absurd (hspells.isDigit 'h' hmem) (by decide)

theorem Digest.Spelled.ne_append {d : Digest} {s mark : List Char} (h : d.Spelled s)
    (hmark : 'h' ∈ mark) (rest : List Char) : s ≠ mark ++ rest := by
  rintro rfl
  exact h.not_mem (List.mem_append_left rest hmark)

theorem Digest.ofText_eq_ok_iff {s : List Char} {d : Digest} : ofText s = .ok d ↔ d.Spelled s := by
  have hdecode : ofText s = .ok d ↔ Hex.decode s = .ok d.bytes := by
    unfold ofText ofBytes
    cases Hex.decode s with
    | error cause => simp
    | ok bytes =>
      obtain ⟨own, hown⟩ := d
      by_cases hlength : bytes.length = 32
      · simp [hlength]
      · simp only [dif_neg hlength, reduceCtorEq, Except.ok.injEq, false_iff]
        exact fun heq => hlength (heq ▸ hown)
  rw [hdecode, Hex.decode_eq_ok_iff]
  rfl

/-- A contract hash is read from a digest with or without its mark. -/
theorem ContractHash.ofText_eq_ok_iff {s : String} {h : ContractHash} :
    ofText s = .ok h ↔ ∃ start ∈ [[], contractMark], ∃ rest,
      Text.trim s.toList = start ++ rest ∧ h.digest.Spelled rest := by
  obtain ⟨d⟩ := h
  unfold ofText
  dsimp only
  simp only [Except.map_eq_ok_iff, ContractHash.mk.injEq, exists_eq_right, Digest.ofText_eq_ok_iff]
  cases hmark : Text.after? contractMark (Text.trim s.toList) with
  | none =>
    constructor
    · intro hspelled
      exact ⟨[], List.mem_cons_self, _, rfl, hspelled⟩
    · rintro ⟨start, hstart, rest, htrim, hspelled⟩
      have hnone : start ≠ contractMark := by
        rintro rfl
        exact Text.after?_eq_none_iff.1 hmark rest htrim
      simp only [List.mem_cons, List.not_mem_nil, or_false, hnone] at hstart
      rw [htrim, hstart]
      exact hspelled
  | some rest' =>
    have htrim' := Text.after?_eq_some_iff.1 hmark
    constructor
    · intro hspelled
      exact ⟨contractMark, by simp, rest', htrim', hspelled⟩
    · rintro ⟨start, hstart, rest, htrim, hspelled⟩
      simp only [List.mem_cons, List.not_mem_nil, or_false] at hstart
      rcases hstart with rfl | rfl
      · have hrest : rest = contractMark ++ rest' := htrim.symm.trans htrim'
        exact absurd hrest (hspelled.ne_append (by decide) rest')
      · rw [htrim'] at htrim
        rw [Option.getD_some, List.append_cancel_left htrim]
        exact hspelled

theorem accountMark_append_ne (a b : List Char) : accountMark ++ a ≠ contractMark ++ b := by
  intro h
  have hhead : some 'a' = some 'h' := congrArg List.head? h
  cases hhead

namespace Key

def mark : Key → List Char
  | account _ => accountMark
  | contract _ => contractMark

def digest : Key → Digest
  | account d => d
  | contract d => d

/-- A text for a key: between blanks its mark and its digest. -/
def Spelled (k : Key) (s : List Char) : Prop :=
  ∃ rest, Text.trim s = k.mark ++ rest ∧ k.digest.Spelled rest

theorem ofText_eq_ok_iff {s : List Char} {k : Key} : ofText s = .ok k ↔ k.Spelled s := by
  unfold ofText Spelled
  dsimp only
  cases haccount : Text.after? accountMark (Text.trim s) with
  | some rest =>
    have htrim := Text.after?_eq_some_iff.1 haccount
    simp only [Except.map_eq_ok_iff, Digest.ofText_eq_ok_iff]
    constructor
    · rintro ⟨d, hspelled, rfl⟩
      exact ⟨rest, htrim, hspelled⟩
    · rintro ⟨rest', htrim', hspelled⟩
      rw [htrim] at htrim'
      cases k with
      | account d => exact ⟨d, List.append_cancel_left htrim' ▸ hspelled, rfl⟩
      | contract d => exact absurd htrim' (accountMark_append_ne _ _)
  | none =>
    have hnone := Text.after?_eq_none_iff.1 haccount
    cases hcontract : Text.after? contractMark (Text.trim s) with
    | some rest =>
      have htrim := Text.after?_eq_some_iff.1 hcontract
      simp only [Except.map_eq_ok_iff, Digest.ofText_eq_ok_iff]
      constructor
      · rintro ⟨d, hspelled, rfl⟩
        exact ⟨rest, htrim, hspelled⟩
      · rintro ⟨rest', htrim', hspelled⟩
        cases k with
        | account d => exact absurd htrim' (hnone rest')
        | contract d =>
          rw [htrim] at htrim'
          exact ⟨d, List.append_cancel_left htrim' ▸ hspelled, rfl⟩
    | none =>
      simp only [reduceCtorEq, false_iff, not_exists, not_and]
      intro rest htrim
      cases k with
      | account d => exact absurd htrim (hnone rest)
      | contract d => exact absurd htrim (Text.after?_eq_none_iff.1 hcontract rest)

theorem toText_inj {k k' : Key} : k.toText = k'.toText ↔ k = k' := by
  refine ⟨fun h => ?_, congrArg toText⟩
  have hread := ofText_toText k
  rw [h, ofText_toText k'] at hread
  exact (Except.ok.inj hread).symm

end Key

namespace ContractHash

theorem ofText_toText (h : ContractHash) : ofText h.toText = .ok h := by
  unfold toText ofText
  rw [String.toList_ofList, trim_append_toHex (by decide)]
  simp only [Text.after?_append, Option.getD_some, Digest.ofText_toHex]
  rfl

theorem toText_inj {h h' : ContractHash} : h.toText = h'.toText ↔ h = h' := by
  refine ⟨fun heq => ?_, congrArg toText⟩
  have hread := ofText_toText h
  rw [heq, ofText_toText h'] at hread
  exact (Except.ok.inj hread).symm

end ContractHash

/-- A contract key is a contract hash that is written with its mark. -/
theorem Key.ofText_eq_contract_iff {s : String} {h : ContractHash} :
    Key.ofText s.toList = .ok (.contract h.digest) ↔
      ContractHash.ofText s = .ok h ∧ contractMark <+: Text.trim s.toList := by
  rw [Key.ofText_eq_ok_iff, ContractHash.ofText_eq_ok_iff]
  constructor
  · rintro ⟨rest, htrim, hspelled⟩
    exact ⟨⟨contractMark, by simp, rest, htrim, hspelled⟩, rest, htrim.symm⟩
  · rintro ⟨⟨start, hstart, rest, htrim, hspelled⟩, t, hprefix⟩
    simp only [List.mem_cons, List.not_mem_nil, or_false] at hstart
    rcases hstart with rfl | rfl
    · have hrest : rest = contractMark ++ t := htrim.symm.trans hprefix.symm
      exact absurd hrest (hspelled.ne_append (by decide) t)
    · exact ⟨rest, htrim, hspelled⟩

theorem ContractHash.ofText_ne_of_account {s : String} {d : Digest} {h : ContractHash}
    (hkey : Key.ofText s.toList = .ok (.account d)) : ContractHash.ofText s ≠ .ok h := by
  obtain ⟨rest, htrim, -⟩ := Key.ofText_eq_ok_iff.1 hkey
  intro hhash
  obtain ⟨start, hstart, rest', htrim', hspelled⟩ := ContractHash.ofText_eq_ok_iff.1 hhash
  rw [htrim] at htrim'
  simp only [List.mem_cons, List.not_mem_nil, or_false] at hstart
  rcases hstart with rfl | rfl
  · have hrest : rest' = accountMark ++ rest := htrim'.symm
    exact absurd hrest (hspelled.ne_append (by decide) rest)
  · exact absurd htrim' (accountMark_append_ne _ _)

/-- Which texts are hashes and keys, and which values they stand for. A contract hash is, between
blanks, a digest with or without its mark; a key is a digest behind one of the two marks. The
readers agree: contract keys are the contract hashes that are written with their mark, and no
account key is one. The written form of what was read is read as the same value, and is the same
for two texts exactly when their values are. -/
theorem hashes_and_keys_read (s : String) :
    (∀ h, ContractHash.ofText s = .ok h ↔ ∃ start ∈ [[], contractMark], ∃ rest,
      Text.trim s.toList = start ++ rest ∧ h.digest.Spelled rest) ∧
    (∀ d, Key.ofText s.toList = .ok (.account d) ↔ ∃ rest,
      Text.trim s.toList = accountMark ++ rest ∧ d.Spelled rest) ∧
    (∀ d, Key.ofText s.toList = .ok (.contract d) ↔ ∃ rest,
      Text.trim s.toList = contractMark ++ rest ∧ d.Spelled rest) ∧
    (∀ rest, (∃ d : Digest, d.Spelled rest) ↔ Digest.Form rest) ∧
    (∀ h : ContractHash, Key.ofText s.toList = .ok (.contract h.digest) ↔
      ContractHash.ofText s = .ok h ∧ contractMark <+: Text.trim s.toList) ∧
    (∀ d h, Key.ofText s.toList = .ok (.account d) → ContractHash.ofText s ≠ .ok h) ∧
    (∀ h, ContractHash.ofText s = .ok h → ContractHash.ofText h.toText = .ok h ∧
      ∀ s' h', ContractHash.ofText s' = .ok h' → (h = h' ↔ h.toText = h'.toText)) ∧
    ∀ k, Key.ofText s.toList = .ok k → Key.ofText k.toText.toList = .ok k ∧
      ∀ (s' : String) k', Key.ofText s'.toList = .ok k' → (k = k' ↔ k.toText = k'.toText) := by
  refine ⟨fun h => ContractHash.ofText_eq_ok_iff, fun d => Key.ofText_eq_ok_iff,
    fun d => Key.ofText_eq_ok_iff, fun rest => Digest.exists_spelled_iff,
    fun h => Key.ofText_eq_contract_iff, fun d h => ContractHash.ofText_ne_of_account, ?_, ?_⟩
  · intro h _
    exact ⟨ContractHash.ofText_toText h, fun _ _ _ => ContractHash.toText_inj.symm⟩
  · intro k _
    exact ⟨Key.ofText_toText k, fun _ _ _ => Key.toText_inj.symm⟩

def zeroDigest : Digest :=
  ⟨List.replicate 32 0, rfl⟩

theorem zeroDigest_spelled {mark : List Char} (h : mark ∈ Hex.marks) :
    zeroDigest.Spelled (mark ++ List.replicate 64 '0') :=
  ⟨mark, h, List.replicate 64 '0', rfl, rfl⟩

/-- A text for the zero digest with a mark in upper case. -/
def upperMarked : String :=
  "0X0000000000000000000000000000000000000000000000000000000000000000"

theorem trim_upperMarked : Text.trim upperMarked.toList = upperMarked.toList :=
  Text.trim_eq_self (List.forall_iff_forall_mem.1 (by decide))

theorem ofText_upperMarked : ContractHash.ofText upperMarked = .ok ⟨zeroDigest⟩ := by
  have htrim : Text.trim upperMarked.toList = [] ++ ("0X".toList ++ List.replicate 64 '0') :=
    trim_upperMarked.trans (by decide)
  exact ContractHash.ofText_eq_ok_iff.2
    ⟨[], List.mem_cons_self, _, htrim, zeroDigest_spelled (by decide)⟩

/-- A mark in upper case is accepted as well. -/
theorem upper_mark_accepted :
    (∃ h, ContractHash.ofText upperMarked = .ok h) ∧
      ¬ ∃ start ∈ [[], contractMark], ∃ mark ∈ [[], "0x".toList], ∃ digits,
        Text.trim upperMarked.toList = start ++ mark ++ digits ∧ digits.length = 64 ∧
          ∀ c ∈ digits, Hex.IsDigit c := by
  refine ⟨⟨_, ofText_upperMarked⟩, ?_⟩
  rintro ⟨start, hstart, mark, hmark, digits, htrim, -, hdigits⟩
  have hstarts : ∀ start ∈ [[], contractMark], 'X' ∉ start := by decide
  have hmarks : ∀ mark ∈ [[], "0x".toList], 'X' ∉ mark := by decide
  have hmem : 'X' ∈ start ++ mark ++ digits := by
    rw [← htrim, trim_upperMarked]
    decide
  rcases List.mem_append.1 hmem with hmem | hmem
  · rcases List.mem_append.1 hmem with hmem | hmem
    · exact hstarts start hstart hmem
    · exact hmarks mark hmark hmem
  · exact absurd (hdigits 'X' hmem) (by decide)

/-- An account key, which is no contract hash, and a contract key, which is one; both are read from
what is written for them. -/
theorem hashes_and_keys_read_zeroDigest :
    Key.ofText (Key.account zeroDigest).toText.toList = .ok (.account zeroDigest) ∧
      ContractHash.ofText (Key.account zeroDigest).toText ≠ .ok ⟨zeroDigest⟩ ∧
      ContractHash.ofText upperMarked = .ok ⟨zeroDigest⟩ ∧
      ContractHash.ofText (ContractHash.toText ⟨zeroDigest⟩) = .ok ⟨zeroDigest⟩ ∧
      Key.ofText (Key.contract zeroDigest).toText.toList = .ok (.contract zeroDigest) := by
  have haccount := Key.ofText_toText (.account zeroDigest)
  obtain ⟨-, -, -, -, -, hnever, -, hkey⟩ := hashes_and_keys_read (Key.account zeroDigest).toText
  obtain ⟨-, -, -, -, -, -, hhash, -⟩ := hashes_and_keys_read upperMarked
  obtain ⟨-, -, -, -, -, -, -, hcontract⟩ := hashes_and_keys_read (Key.contract zeroDigest).toText
  exact ⟨(hkey _ haccount).1, hnever _ _ haccount, ofText_upperMarked,
    (hhash _ ofText_upperMarked).1, (hcontract _ (Key.ofText_toText _)).1⟩

end Courier
