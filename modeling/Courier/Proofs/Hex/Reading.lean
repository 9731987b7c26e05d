import Courier.Proofs.Hex
import Mathlib.Tactic.SplitIfs

/-!
Which texts are read as hexadecimal: at most one mark, then digits of either case, two for each
byte.
-/
namespace Courier.Hex

def IsDigit (c : Char) : Prop :=
  Text.lowerAscii c ∈ "0123456789abcdef".toList

instance : DecidablePred IsDigit :=
  fun c => inferInstanceAs (Decidable (Text.lowerAscii c ∈ "0123456789abcdef".toList))

/-- What may stand in front of the digits. -/
def marks : List (List Char) :=
  [[], "0x".toList, "0X".toList]

/-- Digits of either case that stand for bytes: in lower case they are what is written. -/
def Spells (digits : List Char) (bytes : List UInt8) : Prop :=
  digits.map Text.lowerAscii = encode bytes

theorem mem_alphabet_iff {c : Char} :
    c ∈ "0123456789abcdef".toList ↔ ∃ n < 16, c = digit n := by
  constructor
  · intro h
    have hall : ∀ d ∈ "0123456789abcdef".toList, ∃ n < 16, d = digit n :=
      List.forall_iff_forall_mem.1 (by decide)
    exact hall c h
  · rintro ⟨n, hn, rfl⟩
    revert n
    decide

theorem lt_of_digitValue? {k n : Nat} (h : digitValue? k = some n) : n < 16 := by
  unfold digitValue? at h
  split_ifs at h
  all_goals
    have := Option.some.inj h
    omega

/-- A byte of a text as a character of it, in lower case. -/
def lowerByte (b : UInt8) : Char :=
  Text.lowerAscii (Char.ofNat b.toNat)

theorem toNat_lowerByte_lt_iff {b : UInt8} : (lowerByte b).toNat < 128 ↔ b.toNat < 128 := by
  have hvalid : b.toNat.isValidChar := .inl (Nat.lt_trans b.toNat_lt (by decide))
  have hchar : (Char.ofNat b.toNat).toNat = b.toNat := by
    rw [Char.ofNat, dif_pos hvalid]
    rfl
  rw [lowerByte, Text.toNat_lowerAscii_lt_iff, hchar]

theorem digitValue?_eq_some_iff {b : UInt8} {n : Nat} :
    digitValue? b.toNat = some n ↔ n < 16 ∧ lowerByte b = digit n := by
  have hvalue : ∀ k < 256, ∀ x < 16,
      (digitValue? k = some x ↔ Text.lowerAscii (Char.ofNat k) = digit x) := by decide +kernel
  constructor
  · intro h
    have hn := lt_of_digitValue? h
    exact ⟨hn, (hvalue b.toNat b.toNat_lt n hn).1 h⟩
  · rintro ⟨hn, h⟩
    exact (hvalue b.toNat b.toNat_lt n hn).2 h

theorem encode_ofNat_cons {x y : Nat} (hx : x < 16) (hy : y < 16) (bytes : List UInt8) :
    encode (UInt8.ofNat (16 * x + y) :: bytes) = digit x :: digit y :: encode bytes := by
  have hlt : 16 * x + y < 256 := by omega
  have hbyte : (UInt8.ofNat (16 * x + y)).toNat = 16 * x + y := UInt8.toNat_ofNat_of_lt hlt
  have hhigh : (16 * x + y) / 16 = x := by omega
  have hlow : (16 * x + y) % 16 = y := by omega
  rw [encode, hbyte, hhigh, hlow]

theorem map_cons_cons_eq_encode_iff {a b : UInt8} {rest bytes : List UInt8} :
    (a :: b :: rest).map lowerByte = encode bytes ↔
      ∃ x y bytes', digitValue? a.toNat = some x ∧ digitValue? b.toNat = some y ∧
        rest.map lowerByte = encode bytes' ∧ UInt8.ofNat (16 * x + y) :: bytes' = bytes := by
  simp only [digitValue?_eq_some_iff]
  constructor
  · intro h
    cases bytes with
    | nil => simp [encode] at h
    | cons byte bytes' =>
      simp only [List.map_cons, encode, List.cons.injEq] at h
      obtain ⟨hhigh, hlow⟩ := halves_lt byte
      have hsum : 16 * (byte.toNat / 16) + byte.toNat % 16 = byte.toNat := Nat.div_add_mod _ _
      refine ⟨_, _, bytes', ⟨hhigh, h.1⟩, ⟨hlow, h.2.1⟩, h.2.2, ?_⟩
      rw [hsum, UInt8.ofNat_toNat]
  · rintro ⟨x, y, bytes', ⟨hx, ha⟩, ⟨hy, hb⟩, hrest, rfl⟩
    rw [encode_ofNat_cons hx hy, List.map_cons, List.map_cons, ha, hb, hrest]

/-- Pairs of digits are read when the digits, in lower case, are the written form of the bytes. -/
theorem pairs_eq_ok_iff {digits : List UInt8} (heven : digits.length % 2 = 0) (position : Nat)
    (bytes : List UInt8) :
    pairs position digits = .ok bytes ↔ digits.map lowerByte = encode bytes := by
  fun_induction pairs position digits generalizing bytes with
  | case1 position a b rest ha =>
    rw [map_cons_cons_eq_encode_iff]
    simp [ha]
  | case2 position a b rest x hb ha =>
    rw [map_cons_cons_eq_encode_iff]
    simp only [ha, hb]
    simp
  | case3 position a b rest x y hb ha ih =>
    have hrest : rest.length % 2 = 0 := by
      simp only [List.length_cons] at heven
      omega
    rw [map_cons_cons_eq_encode_iff, Except.map_eq_ok_iff]
    simp only [ih hrest]
    constructor
    · rintro ⟨bytes', h, heq⟩
      exact ⟨x, y, bytes', ha, hb, h, heq⟩
    · rintro ⟨x', y', bytes', ha', hb', h, heq⟩
      rw [ha] at ha'
      rw [hb] at hb'
      rw [← Option.some.inj ha', ← Option.some.inj hb'] at heq
      exact ⟨bytes', h, heq⟩
  | case4 digits position hpair =>
    -- An even number of digits without a pair in front is none at all.
    have hnil : digits = [] := by
      rcases digits with _ | ⟨a, _ | ⟨b, rest⟩⟩
      · rfl
      · simp at heven
      · exact (hpair a b rest rfl).elim
    cases bytes <;> simp [hnil, encode]

theorem length_even_of_map_eq_encode {digits bytes : List UInt8}
    (h : digits.map lowerByte = encode bytes) : digits.length % 2 = 0 := by
  have hlength := congrArg List.length h
  rw [List.length_map, length_encode] at hlength
  omega

def byteMarks : List (List UInt8) :=
  marks.map fun mark => mark.map fun c => UInt8.ofNat c.toNat

theorem decodeBytes_eq_ok_iff {s bytes : List UInt8} :
    decodeBytes s = .ok bytes ↔
      ∃ mark ∈ byteMarks, ∃ digits, s = mark ++ digits ∧ digits.map lowerByte = encode bytes := by
  constructor
  · intro h
    unfold decodeBytes at h
    dsimp only at h
    split at h
    case isTrue => cases h
    case isFalse hodd =>
      have hdigits := (pairs_eq_ok_iff (by omega) 0 bytes).1 h
      have hmark : ∃ mark ∈ byteMarks, s = mark ++ body s := by
        fun_cases body s with
        | case1 rest => exact ⟨[48, 120], by decide, rfl⟩
        | case2 rest => exact ⟨[48, 88], by decide, rfl⟩
        | case3 => exact ⟨[], by decide, rfl⟩
      obtain ⟨mark, hmem, hsplit⟩ := hmark
      exact ⟨mark, hmem, body s, hsplit, hdigits⟩
  · rintro ⟨mark, hmark, digits, rfl, h⟩
    have hunmarked {m : UInt8} (hm : lowerByte m = 'x') : m ∉ digits := by
      intro hmem
      have hx : 'x' ∈ encode bytes := h ▸ hm ▸ List.mem_map_of_mem hmem
      exact (encode_plain bytes 'x' hx).2.2.1 rfl
    have hbody : body (mark ++ digits) = digits := by
      have hmarks : byteMarks = [[], [48, 120], [48, 88]] := by decide
      simp only [hmarks, List.mem_cons, List.not_mem_nil, or_false] at hmark
      rcases hmark with rfl | rfl | rfl
      · exact body_eq_self (hunmarked (by decide)) (hunmarked (by decide))
      · rfl
      · rfl
    have heven := length_even_of_map_eq_encode h
    unfold decodeBytes
    dsimp only
    rw [hbody, if_neg (by omega)]
    exact (pairs_eq_ok_iff heven 0 bytes).2 h

theorem map_lowerByte {s : List Char} (h : ∀ c ∈ s, c.toNat < 128) :
    (s.map fun c => UInt8.ofNat c.toNat).map lowerByte = s.map Text.lowerAscii := by
  have hlower : lowerByte = Text.lowerAscii ∘ fun b => Char.ofNat b.toNat := rfl
  rw [hlower, ← List.map_map, Text.map_ofNat_map_toNat h]

/-- Only ASCII characters become digits in lower case. -/
theorem Spells.ascii {digits : List Char} {bytes : List UInt8} (h : Spells digits bytes) :
    ∀ c ∈ digits, c.toNat < 128 := by
  intro c hc
  have hlower : Text.lowerAscii c ∈ encode bytes := h ▸ List.mem_map_of_mem hc
  exact Text.toNat_lowerAscii_lt_iff.1 (encode_plain bytes _ hlower).1

theorem ascii_of_mem_marks {mark : List Char} (h : mark ∈ marks) : ∀ c ∈ mark, c.toNat < 128 := by
  have hall : ∀ mark ∈ marks, mark.Forall (·.toNat < 128) := by decide
  exact List.forall_iff_forall_mem.1 (hall mark h)

/-- Bytes are read from a text exactly when it spells them, after at most one mark. -/
theorem decode_eq_ok_iff {s : List Char} {bytes : List UInt8} :
    decode s = .ok bytes ↔ ∃ mark ∈ marks, ∃ digits, s = mark ++ digits ∧ Spells digits bytes := by
  unfold decode
  rw [decodeBytes_eq_ok_iff]
  constructor
  · rintro ⟨_, hmark, digits, hs, hdigits⟩
    obtain ⟨mark, hmem, rfl⟩ := List.mem_map.1 hmark
    have hbytes : ∀ b ∈ (String.ofList s).toUTF8.toList, b.toNat < 128 := by
      intro b hb
      rw [hs, List.mem_append] at hb
      rcases hb with hb | hb
      · obtain ⟨c, hc, rfl⟩ := List.mem_map.1 hb
        have hlt := ascii_of_mem_marks hmem c hc
        rwa [Text.toNat_ofNat_of_ascii hlt]
      · have hlower : lowerByte b ∈ encode bytes := hdigits ▸ List.mem_map_of_mem hb
        exact toNat_lowerByte_lt_iff.1 (encode_plain bytes _ hlower).1
    have hascii := Text.ascii_of_toUTF8 hbytes
    rw [Text.toList_toUTF8_of_ascii hascii] at hs
    obtain ⟨front, digits', rfl, hfront, rfl⟩ := List.map_eq_append_iff.1 hs
    have hfront_ascii : ∀ c ∈ front, c.toNat < 128 :=
      fun c hc => hascii c (List.mem_append_left _ hc)
    have hdigits_ascii : ∀ c ∈ digits', c.toNat < 128 :=
      fun c hc => hascii c (List.mem_append_right _ hc)
    have hfront_eq : front = mark := by
      rw [← Text.map_ofNat_map_toNat hfront_ascii, hfront,
        Text.map_ofNat_map_toNat (ascii_of_mem_marks hmem)]
    rw [map_lowerByte hdigits_ascii] at hdigits
    exact ⟨mark, hmem, digits', hfront_eq ▸ rfl, hdigits⟩
  · rintro ⟨mark, hmark, digits, rfl, hdigits⟩
    have hascii : ∀ c ∈ mark ++ digits, c.toNat < 128 := by
      intro c hc
      exact (List.mem_append.1 hc).elim (ascii_of_mem_marks hmark c) (hdigits.ascii c)
    refine ⟨_, List.mem_map_of_mem hmark, digits.map fun c => UInt8.ofNat c.toNat, ?_, ?_⟩
    · rw [Text.toList_toUTF8_of_ascii hascii, List.map_append]
    · rw [map_lowerByte hdigits.ascii]
      exact hdigits

theorem mem_alphabet_of_mem_encode {bytes : List UInt8} :
    ∀ c ∈ encode bytes, c ∈ "0123456789abcdef".toList := by
  induction bytes with
  | nil => simp [encode]
  | cons b rest ih =>
    obtain ⟨hhigh, hlow⟩ := halves_lt b
    simp only [encode, List.forall_mem_cons]
    exact ⟨mem_alphabet_iff.2 ⟨_, hhigh, rfl⟩, mem_alphabet_iff.2 ⟨_, hlow, rfl⟩, ih⟩

/-- Twice as many digits as bytes, of either case, always stand for some bytes. -/
theorem exists_spells_iff {digits : List Char} {n : Nat} :
    (∃ bytes, bytes.length = n ∧ Spells digits bytes) ↔
      digits.length = 2 * n ∧ ∀ c ∈ digits, IsDigit c := by
  constructor
  · rintro ⟨bytes, rfl, h⟩
    have hlength := congrArg List.length h
    rw [List.length_map, length_encode] at hlength
    refine ⟨hlength, fun c hc => ?_⟩
    have hmem : Text.lowerAscii c ∈ encode bytes := h ▸ List.mem_map_of_mem hc
    exact mem_alphabet_of_mem_encode _ hmem
  · rintro ⟨hlength, hdigits⟩
    induction n generalizing digits with
    | zero =>
      have hnil : digits = [] := List.length_eq_zero_iff.1 hlength
      exact ⟨[], rfl, hnil ▸ rfl⟩
    | succ n ih =>
      match digits, hlength, hdigits with
      | c :: d :: rest, hlength, hdigits =>
        rw [List.forall_mem_cons, List.forall_mem_cons] at hdigits
        obtain ⟨x, hx, hc⟩ := mem_alphabet_iff.1 hdigits.1
        obtain ⟨y, hy, hd⟩ := mem_alphabet_iff.1 hdigits.2.1
        have hrest : rest.length = 2 * n := by
          simp only [List.length_cons] at hlength
          omega
        obtain ⟨bytes, hbytes, hspells⟩ := ih hrest hdigits.2.2
        refine ⟨UInt8.ofNat (16 * x + y) :: bytes, congrArg (· + 1) hbytes, ?_⟩
        unfold Spells
        rw [encode_ofNat_cons hx hy, List.map_cons, List.map_cons, hc, hd, hspells]

theorem exists_spells_iff_even (digits : List Char) :
    (∃ bytes, Spells digits bytes) ↔ digits.length % 2 = 0 ∧ ∀ c ∈ digits, IsDigit c := by
  constructor
  · rintro ⟨bytes, h⟩
    obtain ⟨hlength, hdigits⟩ := exists_spells_iff.1 ⟨bytes, rfl, h⟩
    exact ⟨by omega, hdigits⟩
  · rintro ⟨heven, hdigits⟩
    have hlength : digits.length = 2 * (digits.length / 2) := by omega
    obtain ⟨bytes, -, h⟩ := exists_spells_iff.2 ⟨hlength, hdigits⟩
    exact ⟨bytes, h⟩

theorem Spells.isDigit {digits : List Char} {bytes : List UInt8} (h : Spells digits bytes) :
    ∀ c ∈ digits, IsDigit c :=
  (exists_spells_iff.1 ⟨bytes, rfl, h⟩).2

end Courier.Hex
