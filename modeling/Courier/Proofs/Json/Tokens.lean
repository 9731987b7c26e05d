import Courier.Json.Printer
import Courier.Json.Written
import Courier.Proofs.Numeral
import Mathlib.Data.List.TakeWhile
import Mathlib.Tactic.SplitIfs

/-!
Strings and whole numbers in JSON text are read as themselves. A number that is read when it stands
alone is read in front of everything that could not belong to it as well.
-/
namespace Courier.Json.Written

theorem unit?_digitChar : ∀ n < 0x20,
    unit? '0' '0' (Nat.digitChar (n / 16)) (Nat.digitChar (n % 16)) = some n := by
  decide

theorem stringTail_plain {c : Char} (hquote : c ≠ '"') (hslash : c ≠ '\\')
    (hcontrol : ¬ c.toNat < 0x20) (read t : List Char) :
    stringTail read none false (c :: t) = stringTail (c :: read) none false t := by
  rw [stringTail.eq_5 _ _ _ _ _ hquote (fun _ _ _ _ _ h _ => hslash h)
    (fun _ _ h _ => hslash h)]
  simp [hslash, hcontrol]

theorem stringTail_control {c : Char} (h : c.toNat < 0x20) (read t : List Char) :
    stringTail read none false ('\\' :: 'u' :: '0' :: '0' ::
      Nat.digitChar (c.toNat / 16) :: Nat.digitChar (c.toNat % 16) :: t) =
      stringTail (c :: read) none false t := by
  have hhigh : isHigh c.toNat = false := by simp [isHigh]; omega
  have hlow : isLow c.toNat = false := by simp [isLow]; omega
  rw [stringTail]
  simp [unit?_digitChar _ h, hhigh, hlow]

/-- An escaped character is read as itself. -/
theorem stringTail_escape (c : Char) (read t : List Char) :
    stringTail read none false (escape c ++ t) = stringTail (c :: read) none false t := by
  unfold escape
  split_ifs with hquote hslash _ _ _ _ _ hcontrol
  case pos => subst c; rfl
  case pos => subst c; rfl
  case pos => subst c; rfl
  case pos => subst c; rfl
  case pos => subst c; rfl
  case pos => subst c; rfl
  case pos => subst c; rfl
  case pos => exact stringTail_control hcontrol read t
  case neg => exact stringTail_plain hquote hslash hcontrol read t

theorem stringTail_foldr (s read rest : List Char) :
    stringTail read none false (s.foldr (fun c t => escape c ++ t) ['"'] ++ rest) =
      some (some (String.ofList (read.reverse ++ s)), rest) := by
  induction s generalizing read with
  | nil => simp [stringTail]
  | cons c s ih =>
    rw [List.foldr_cons, List.append_assoc, stringTail_escape, ih, List.reverse_cons,
      List.append_assoc, List.singleton_append]

theorem toList_quoted (s : String) :
    (quoted s).toList = '"' :: s.toList.foldr (fun c t => escape c ++ t) ['"'] :=
  String.toList_ofList

/-- Nothing at the beginning of a text could belong to a number in front of it. -/
def Apart : List Char → Prop
  | [] => True
  | c :: _ => c.isDigit = false ∧ c ≠ '.' ∧ c ≠ 'e' ∧ c ≠ 'E'

theorem Apart.takeWhile_append {rest : List Char} (h : Apart rest) (s : List Char) :
    (s ++ rest).takeWhile Char.isDigit = s.takeWhile Char.isDigit := by
  induction s with
  | nil =>
    cases rest with
    | nil => rfl
    | cons c rest => simp [h.1]
  | cons c s ih => simp only [List.cons_append, List.takeWhile_cons, ih]

theorem Apart.dropWhile_append {rest : List Char} (h : Apart rest) (s : List Char) :
    (s ++ rest).dropWhile Char.isDigit = s.dropWhile Char.isDigit ++ rest := by
  induction s with
  | nil =>
    cases rest with
    | nil => rfl
    | cons c rest => simp [h.1]
  | cons c s ih =>
    simp only [List.cons_append, List.dropWhile_cons, ih]
    split <;> rfl

theorem fraction?_of_ne {c : Char} (h : c ≠ '.') (s : List Char) :
    fraction? (c :: s) = some ([], c :: s) :=
  fraction?.eq_2 _ fun _ heq => h (List.cons.inj heq).1

theorem fraction?_append {s part left rest : List Char} (h : Apart rest)
    (hs : fraction? s = some (part, left)) :
    fraction? (s ++ rest) = some (part, left ++ rest) := by
  cases s with
  | nil =>
    cases hs
    cases rest with
    | nil => rfl
    | cons c rest => exact fraction?_of_ne h.2.1 rest
  | cons c s =>
    by_cases hc : c = '.'
    · subst hc
      rw [fraction?] at hs
      rw [List.cons_append, fraction?, h.takeWhile_append, h.dropWhile_append]
      split at hs
      case isTrue => cases hs
      case isFalse hpart =>
        cases hs
        rw [if_neg hpart]
    · rw [fraction?_of_ne hc] at hs
      cases hs
      exact fraction?_of_ne hc _

theorem sign_append {s : List Char} (hs : s ≠ []) (rest : List Char) :
    sign (s ++ rest) = ((sign s).1, (sign s).2 ++ rest) := by
  cases s with
  | nil => exact absurd rfl hs
  | cons c s =>
    by_cases hminus : c = '-'
    · subst hminus; rfl
    · by_cases hplus : c = '+'
      · subst hplus; rfl
      · simp [sign, hminus, hplus]

theorem exponent?_append {s left rest : List Char} {e : Option Int} (h : Apart rest)
    (hs : exponent? s = some (e, left)) : exponent? (s ++ rest) = some (e, left ++ rest) := by
  cases s with
  | nil =>
    cases hs
    cases rest with
    | nil => rfl
    | cons c rest => simp [exponent?, h.2.2.1, h.2.2.2]
  | cons c s =>
    rw [exponent?] at hs
    rw [List.cons_append, exponent?]
    split at hs
    case isFalse hc =>
      cases hs
      rw [if_neg hc]
      rfl
    case isTrue hc =>
      have hne : s ≠ [] := by
        rintro rfl
        cases hs
      obtain ⟨n, hn, hread⟩ := Option.map_eq_some_iff.1 hs
      cases hread
      rw [if_pos hc, sign_append hne]
      dsimp only
      rw [h.takeWhile_append, h.dropWhile_append]
      exact congrArg (Option.map _) hn

theorem whole_append {s rest : List Char} (h : Apart rest) : whole (s ++ rest) = whole s := by
  cases s with
  | nil =>
    cases rest with
    | nil => rfl
    | cons c rest =>
      have hzero : c ≠ '0' := by
        rintro rfl
        cases h.1
      simp [whole, hzero, h.1]
  | cons c s =>
    by_cases hzero : c = '0'
    · subst hzero; rfl
    · rw [List.cons_append, whole.eq_2 _ (by simp [hzero]), whole.eq_2 _ (by simp [hzero]),
        ← List.cons_append, h.takeWhile_append]

theorem length_whole_le (s : List Char) : (whole s).length ≤ s.length := by
  unfold whole
  split
  · simp
  · exact (List.takeWhile_prefix _).length_le

theorem unsigned?_append {negative : Bool} {s rest : List Char} {w : Written} (h : Apart rest)
    (hs : unsigned? negative s = some (w, [])) :
    unsigned? negative (s ++ rest) = some (w, rest) := by
  unfold unsigned? at hs ⊢
  rw [whole_append h, List.drop_append_of_le_length (length_whole_le s)]
  split at hs
  case h_2 => cases hs
  case h_1 part left n hpart hn =>
    obtain ⟨⟨e, left'⟩, he, hread⟩ := Option.map_eq_some_iff.1 hs
    have hleft : left' = [] := by
      dsimp only at hread
      split at hread <;> exact (Prod.mk.inj hread).2
    subst hleft
    rw [fraction?_append h hpart, hn]
    dsimp only
    rw [exponent?_append h he, Option.map_some, List.nil_append]
    dsimp only at hread ⊢
    split at hread <;> simp_all

theorem number?_append {s rest : List Char} {w : Written} (h : Apart rest)
    (hs : number? s = some (w, [])) : number? (s ++ rest) = some (w, rest) := by
  cases s with
  | nil => cases hs
  | cons c s =>
    by_cases hc : c = '-'
    · subst hc
      exact unsigned?_append h hs
    · rw [number?.eq_2 _ (by simp [hc])] at hs
      rw [List.cons_append, number?.eq_2 _ (by simp [hc]), ← List.cons_append]
      exact unsigned?_append h hs

theorem head_decimal_ne_zero {n : Nat} (hn : 0 < n) (s : List Char) :
    Numeral.decimal n ≠ '0' :: s := by
  induction n using Nat.strongRecOn generalizing s with
  | ind n ih =>
    unfold Numeral.decimal
    rw [Nat.toDigits_eq_if (by decide)]
    split
    case isTrue h =>
      intro heq
      have hread := Numeral.digitBelow?_digitChar h
      rw [(List.cons.inj heq).1] at hread
      exact hn.ne (Option.some.inj hread)
    case isFalse h =>
      intro heq
      obtain ⟨c, front, hfront⟩ := List.exists_cons_of_ne_nil (Numeral.decimal_ne_nil (n / 10))
      rw [← Numeral.decimal, hfront, List.cons_append] at heq
      exact ih (n / 10) (Nat.div_lt_self hn (by decide)) (by omega) front
        (by rw [hfront, (List.cons.inj heq).1])

theorem whole_decimal (n : Nat) : whole (Numeral.decimal n) = Numeral.decimal n := by
  rcases Nat.eq_zero_or_pos n with rfl | hn
  · rfl
  · rw [whole.eq_2 _ (head_decimal_ne_zero hn), List.takeWhile_eq_self_iff]
    exact fun c => Numeral.isDigit_of_mem_decimal

theorem unsigned?_decimal (negative : Bool) (n : Nat) :
    unsigned? negative (Numeral.decimal n) = some (.integer negative n, []) := by
  simp [unsigned?, whole_decimal, fraction?, exponent?, Numeral.digits?_decimal]

/-- A whole number is read as itself. -/
theorem number?_toString (i : Int) :
    number? (toString i).toList = some (.integer (i < 0) i.natAbs, []) := by
  cases i with
  | ofNat n =>
    have htext : (toString (Int.ofNat n)).toList = Numeral.decimal n := String.toList_ofList
    have hhead : ∀ s, Numeral.decimal n ≠ '-' :: s := fun s heq =>
      Numeral.not_mem_decimal (c := '-') (n := n) (by decide) (heq ▸ List.mem_cons_self)
    rw [htext, number?.eq_2 _ hhead, unsigned?_decimal]
    simp
  | negSucc n =>
    have htext : (toString (Int.negSucc n)).toList = '-' :: Numeral.decimal (n + 1) := by
      change ("-" ++ Nat.repr (n + 1)).toList = _
      rw [String.toList_append]
      exact congrArg _ String.toList_ofList
    rw [htext, number?, unsigned?_decimal]
    simp

end Courier.Json.Written
