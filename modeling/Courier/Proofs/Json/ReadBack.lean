import Courier.Proofs.Json.Tokens
import Mathlib.Algebra.Group.Int.Defs
import Mathlib.Data.List.DropRight
import Mathlib.Tactic.Choose

/-!
The printed text of a value is read as this value, with the members of its objects in the order of
their names.
-/
namespace Courier.Json

namespace Written

theorem skipSpace_append {blanks : List Char} (h : blanks.all isSpace) (s : List Char) :
    skipSpace (blanks ++ s) = skipSpace s :=
  List.dropWhile_append_of_pos (List.all_eq_true.1 h)

theorem skipSpace_cons {c : Char} (h : isSpace c = false) (s : List Char) :
    skipSpace (c :: s) = c :: s :=
  List.dropWhile_cons_of_neg (by simp [h])

/-- Blanks in front of a value do not matter. -/
theorem value?_append {blanks : List Char} (h : blanks.all isSpace) (fuel : Nat) (s : List Char) :
    value? fuel (blanks ++ s) = value? fuel s := by
  cases fuel with
  | zero => rfl
  | succ fuel => rw [value?, value?, skipSpace_append h]

theorem skipSpace_skipSpace (s : List Char) : skipSpace (skipSpace s) = skipSpace s :=
  List.dropWhile_idempotent _ _

theorem value?_skipSpace (fuel : Nat) (s : List Char) :
    value? fuel (skipSpace s) = value? fuel s := by
  cases fuel with
  | zero => rfl
  | succ fuel => rw [value?, value?, skipSpace_skipSpace]

/-- Wherever the text stands, it is read as a text of the value, with as many levels below. -/
def ReadsAs (levels : Nat) (s : List Char) (v : Json) : Prop :=
  ∃ w, toJson? levels w = some v ∧ ∀ fuel rest, 2 * s.length ≤ fuel → Apart rest →
    value? fuel (s ++ rest) = some (w, rest)

theorem readsAs_of_value? {levels : Nat} {s : List Char} {v : Json} {w : Written} (hne : s ≠ [])
    (hv : toJson? levels w = some v)
    (h : ∀ fuel rest, 2 * s.length ≤ fuel + 1 → Apart rest →
      value? (fuel + 1) (s ++ rest) = some (w, rest)) : ReadsAs levels s v := by
  refine ⟨w, hv, fun fuel rest hfuel hrest => ?_⟩
  have hpos := List.length_pos_of_ne_nil hne
  obtain ⟨fuel, rfl⟩ := Nat.exists_eq_add_of_le' (by omega : 1 ≤ fuel)
  exact h fuel rest hfuel hrest

/-- Parts with commas between them, each behind a margin, up to the closing mark. -/
def listed (margin last : List Char) (closing : Char) : List (List Char) → List Char
  | [] => last ++ [closing]
  | [s] => margin ++ s ++ (last ++ [closing])
  | s :: t :: rest => margin ++ s ++ ',' :: listed margin last closing (t :: rest)

theorem listed_map_cons {ι : Type} (margin last : List Char) (closing : Char)
    (f : ι → List Char) (i j : ι) (l : List ι) :
    listed margin last closing ((i :: j :: l).map f) =
      margin ++ f i ++ ',' :: listed margin last closing ((j :: l).map f) := rfl

theorem apart_comma (s : List Char) : Apart (',' :: s) :=
  ⟨rfl, by decide, by decide, by decide⟩

theorem apart_bracket (s : List Char) : Apart (']' :: s) :=
  ⟨rfl, by decide, by decide, by decide⟩

theorem apart_brace (s : List Char) : Apart ('\x7d' :: s) :=
  ⟨rfl, by decide, by decide, by decide⟩

theorem apart_append {blanks s : List Char} (h : blanks.all isSpace) (hs : Apart s) :
    Apart (blanks ++ s) := by
  cases blanks with
  | nil => exact hs
  | cons c blanks =>
    rw [List.all_cons, Bool.and_eq_true] at h
    have hc : c = ' ' ∨ c = '\n' ∨ c = '\t' ∨ c = '\r' := by
      simpa [isSpace, or_assoc] using h.1
    rcases hc with rfl | rfl | rfl | rfl <;> exact ⟨rfl, by decide, by decide, by decide⟩

variable {ι : Type} {levels : Nat} {margin last : List Char} {text : ι → List Char}
  {value : ι → Json}

/-- Reading what is listed, part by part. Every part pays for its own reading, and the comma or the
mark behind it for the step to the next one. -/
theorem run_listed {β : Type} {run : Nat → List β → List Char → Option (Written × List Char)}
    {finish : List β → Written} {part : ι → β} {closing : Char} {l : List ι} (hne : l ≠ [])
    (hcomma : ∀ i ∈ l, ∀ fuel read rest, 2 * (text i).length ≤ fuel →
      run (fuel + 1) read (margin ++ (text i ++ ',' :: rest)) = run fuel (part i :: read) rest)
    (hclose : ∀ i ∈ l, ∀ fuel read rest, 2 * (text i).length ≤ fuel →
      run (fuel + 1) read (margin ++ (text i ++ (last ++ closing :: rest))) =
        some (finish (part i :: read).reverse, rest))
    (fuel : Nat) (read : List β) (rest : List Char)
    (hfuel : 2 * (listed margin last closing (l.map text)).length ≤ fuel) :
    run fuel read (listed margin last closing (l.map text) ++ rest) =
      some (finish (read.reverse ++ l.map part), rest) := by
  induction l generalizing fuel read with
  | nil => exact absurd rfl hne
  | cons i l ih =>
    cases l with
    | nil =>
      simp only [List.map_cons, List.map_nil, listed, List.length_append, List.length_singleton]
        at hfuel
      obtain ⟨fuel, rfl⟩ := Nat.exists_eq_add_of_le' (by omega : 1 ≤ fuel)
      have hlast := hclose i List.mem_cons_self fuel read rest (by omega)
      simpa [listed] using hlast
    | cons j l =>
      rw [listed_map_cons] at hfuel ⊢
      simp only [List.length_append, List.length_cons] at hfuel
      obtain ⟨fuel, rfl⟩ := Nat.exists_eq_add_of_le' (by omega : 1 ≤ fuel)
      have hrest := ih (List.cons_ne_nil j l) (fun k hk => hcomma k (List.mem_cons_of_mem _ hk))
        (fun k hk => hclose k (List.mem_cons_of_mem _ hk)) fuel (part i :: read) (by omega)
      rw [List.append_assoc, List.append_assoc, List.cons_append,
        hcomma i List.mem_cons_self _ _ _ (by omega), hrest]
      simp

theorem items?_comma {fuel : Nat} {s rest : List Char} {w : Written}
    (hmargin : margin.all isSpace)
    (h : ∀ left, Apart left → value? fuel (s ++ left) = some (w, left)) (read : List Written) :
    items? (fuel + 1) read (margin ++ (s ++ ',' :: rest)) = items? fuel (w :: read) rest := by
  rw [items?, value?_append hmargin, h _ (apart_comma _)]
  rfl

theorem items?_last {fuel : Nat} {s rest : List Char} {w : Written} (hmargin : margin.all isSpace)
    (hlast : last.all isSpace) (h : ∀ left, Apart left → value? fuel (s ++ left) = some (w, left))
    (read : List Written) :
    items? (fuel + 1) read (margin ++ (s ++ (last ++ ']' :: rest))) =
      some (.array (w :: read).reverse, rest) := by
  rw [items?, value?_append hmargin,
    h _ (apart_append hlast (apart_bracket _))]
  dsimp only
  rw [skipSpace_append hlast]
  rfl

theorem itemsToJson?_map {written : ι → Written} {l : List ι}
    (h : ∀ i ∈ l, toJson? levels (written i) = some (value i)) :
    itemsToJson? levels (l.map written) = some (l.map value) := by
  induction l with
  | nil => rfl
  | cons i l ih =>
    have hrest := ih fun k hk => h k (List.mem_cons_of_mem _ hk)
    simp [itemsToJson?, h i List.mem_cons_self, hrest]

theorem items?_skipSpace (fuel : Nat) (read : List Written) (s : List Char) :
    items? fuel read (skipSpace s) = items? fuel read s := by
  cases fuel with
  | zero => rfl
  | succ fuel => rw [items?, items?, value?_skipSpace]

theorem items?_close (fuel : Nat) (read : List Written) (s : List Char) :
    items? fuel read (']' :: s) = none := by
  cases fuel with
  | zero => rfl
  | succ fuel =>
    cases fuel with
    | zero => rfl
    | succ fuel => simp [items?, value?, skipSpace, isSpace, word?]

theorem value?_of_items? {fuel : Nat} {s : List Char} {r : Written × List Char}
    (h : items? fuel [] s = some r) : value? (fuel + 1) ('[' :: s) = some r := by
  rw [← items?_skipSpace] at h
  rw [value?, skipSpace_cons rfl]
  simp only
  split
  case h_1 heq =>
    rw [heq, items?_close] at h
    cases h
  case h_2 => exact h

theorem readsAs_array (hmargin : margin.all isSpace) (hlast : last.all isSpace) {l : List ι}
    (hne : l ≠ []) (h : ∀ i ∈ l, ReadsAs levels (text i) (value i)) :
    ReadsAs (levels + 1) ('[' :: listed margin last ']' (l.map text)) (.array (l.map value)) := by
  choose! w hw hread using h
  have hjson : toJson? (levels + 1) (.array (l.map w)) = some (.array (l.map value)) := by
    rw [toJson?, if_neg (Nat.succ_ne_zero levels), Nat.add_sub_cancel, itemsToJson?_map hw]
    rfl
  refine readsAs_of_value? (List.cons_ne_nil _ _) hjson fun fuel rest hfuel _ => ?_
  rw [List.length_cons] at hfuel
  refine value?_of_items? (run_listed hne (fun i hi fuel read rest hi' => ?_)
    (fun i hi fuel read rest hi' => ?_) fuel [] rest (by omega))
  · exact items?_comma hmargin (fun left => hread i hi fuel left hi') read
  · exact items?_last hmargin hlast (fun left => hread i hi fuel left hi') read

def named (name : String) (s : List Char) : List Char :=
  (quoted name).toList ++ ':' :: ' ' :: s

theorem members?_named {fuel : Nat} {read : List (Option String × Written)} {name : String}
    {s rest left : List Char} {w : Written} (hmargin : margin.all isSpace)
    (h : value? fuel (s ++ rest) = some (w, left)) :
    members? (fuel + 1) read (margin ++ (named name s ++ rest)) =
      match skipSpace left with
      | ',' :: left => members? fuel ((some name, w) :: read) left
      | '\x7d' :: left => some (.object ((some name, w) :: read).reverse, left)
      | _ => none := by
  have htext : named name s ++ rest = '"' :: (name.toList.foldr (fun c t => escape c ++ t) ['"'] ++
      ':' :: ' ' :: (s ++ rest)) := by
    rw [named, toList_quoted]
    simp only [List.cons_append, List.append_assoc]
  have hvalue : value? fuel (' ' :: (s ++ rest)) = some (w, left) := by
    rw [← List.singleton_append, value?_append rfl, h]
  rw [htext, members?, skipSpace_append hmargin, skipSpace_cons rfl]
  simp only [stringTail_foldr, List.reverse_nil, List.nil_append, String.ofList_toList]
  rw [skipSpace_cons rfl]
  simp only
  exact hvalue ▸ rfl

theorem members?_comma {fuel : Nat} {name : String} {s rest : List Char} {w : Written}
    (hmargin : margin.all isSpace)
    (h : ∀ left, Apart left → value? fuel (s ++ left) = some (w, left))
    (read : List (Option String × Written)) :
    members? (fuel + 1) read (margin ++ (named name s ++ ',' :: rest)) =
      members? fuel ((some name, w) :: read) rest := by
  rw [members?_named hmargin (h _ (apart_comma _))]
  rfl

theorem members?_last {fuel : Nat} {name : String} {s rest : List Char} {w : Written}
    (hmargin : margin.all isSpace) (hlast : last.all isSpace)
    (h : ∀ left, Apart left → value? fuel (s ++ left) = some (w, left))
    (read : List (Option String × Written)) :
    members? (fuel + 1) read (margin ++ (named name s ++ (last ++ '\x7d' :: rest))) =
      some (.object ((some name, w) :: read).reverse, rest) := by
  rw [members?_named hmargin
    (h _ (apart_append hlast (apart_brace _))), skipSpace_append hlast]
  rfl

theorem membersToJson?_map {name : ι → String} {written : ι → Written} {l : List ι}
    (h : ∀ i ∈ l, toJson? levels (written i) = some (value i)) :
    membersToJson? levels (l.map fun i => (some (name i), written i)) =
      some (l.map fun i => (name i, value i)) := by
  induction l with
  | nil => rfl
  | cons i l ih =>
    have hrest := ih fun k hk => h k (List.mem_cons_of_mem _ hk)
    simp [membersToJson?, h i List.mem_cons_self, hrest]

theorem members?_skipSpace (fuel : Nat) (read : List (Option String × Written))
    (s : List Char) : members? fuel read (skipSpace s) = members? fuel read s := by
  cases fuel with
  | zero => rfl
  | succ fuel => rw [members?, members?, skipSpace_skipSpace]

theorem members?_close (fuel : Nat) (read : List (Option String × Written)) (s : List Char) :
    members? fuel read ('\x7d' :: s) = none := by
  cases fuel with
  | zero => rfl
  | succ fuel => simp [members?, skipSpace, isSpace]

theorem value?_of_members? {fuel : Nat} {s : List Char} {r : Written × List Char}
    (h : members? fuel [] s = some r) : value? (fuel + 1) ('\x7b' :: s) = some r := by
  rw [← members?_skipSpace] at h
  rw [value?, skipSpace_cons rfl]
  simp only
  split
  case h_1 heq =>
    rw [heq, members?_close] at h
    cases h
  case h_2 => exact h

theorem lastOfEach_eq_self {members : List (String × Json)}
    (h : (members.map Prod.fst).Nodup) : lastOfEach members = members := by
  induction members with
  | nil => rfl
  | cons m members ih =>
    rw [List.map_cons, List.nodup_cons] at h
    have hnone : (members.any fun n => n.1 == m.1) = false := by
      rw [List.any_eq_false]
      intro n hn heq
      exact h.1 (beq_iff_eq.1 heq ▸ List.mem_map_of_mem hn)
    rw [lastOfEach, ih h.2, hnone]
    rfl

theorem readsAs_object (hmargin : margin.all isSpace) (hlast : last.all isSpace)
    {name : ι → String} {l : List ι} (hne : l ≠ []) (hnodup : (l.map name).Nodup)
    (h : ∀ i ∈ l, ReadsAs levels (text i) (value i)) :
    ReadsAs (levels + 1)
      ('\x7b' :: listed margin last '\x7d' (l.map fun i => named (name i) (text i)))
      (.object (l.map fun i => (name i, value i))) := by
  choose! w hw hread using h
  have hnames : ((l.map fun i => (name i, value i)).map Prod.fst).Nodup := by
    rwa [List.map_map]
  have hlength (i : ι) : 2 * (text i).length ≤ 2 * (named (name i) (text i)).length := by
    simp only [named, List.length_append, List.length_cons]
    omega
  have hjson : toJson? (levels + 1) (.object (l.map fun i => (some (name i), w i))) =
      some (.object (l.map fun i => (name i, value i))) := by
    rw [toJson?, if_neg (Nat.succ_ne_zero levels), Nat.add_sub_cancel, membersToJson?_map hw,
      Option.map_some, lastOfEach_eq_self hnames]
  refine readsAs_of_value? (List.cons_ne_nil _ _) hjson fun fuel rest hfuel _ => ?_
  rw [List.length_cons] at hfuel
  refine value?_of_members? (run_listed hne (fun i hi fuel read rest hi' => ?_)
    (fun i hi fuel read rest hi' => ?_) fuel [] rest (by omega))
  · exact members?_comma hmargin
      (fun left => hread i hi fuel left (Nat.le_trans (hlength i) hi')) read
  · exact members?_last hmargin hlast
      (fun left => hread i hi fuel left (Nat.le_trans (hlength i) hi')) read

theorem value?_of_start {c : Char} (hc : c = '-' ∨ c.isDigit = true) (fuel : Nat)
    (s : List Char) : value? (fuel + 1) (c :: s) = number? (c :: s) := by
  have hne (d : Char) (hminus : d ≠ '-') (hdigit : d.isDigit = false) : c ≠ d := by
    rintro rfl
    rcases hc with rfl | hc
    · exact hminus rfl
    · rw [hdigit] at hc
      cases hc
  have hspace : isSpace c = false := by
    simp [isSpace, hne ' ' (by decide) (by decide), hne '\n' (by decide) (by decide),
      hne '\t' (by decide) (by decide), hne '\r' (by decide) (by decide)]
  rw [value?, skipSpace_cons hspace]
  split
  case h_1 heq => exact absurd (List.cons.inj heq).1 (hne _ (by decide) (by decide))
  case h_2 heq => exact absurd (List.cons.inj heq).1 (hne _ (by decide) (by decide))
  case h_3 heq => exact absurd (List.cons.inj heq).1 (hne _ (by decide) (by decide))
  case h_4 heq =>
    cases heq
    rw [if_pos hc]
  case h_5 heq => cases heq

theorem start_of_number? {c : Char} {s : List Char} {r : Written × List Char}
    (h : number? (c :: s) = some r) : c = '-' ∨ c.isDigit = true := by
  by_cases hc : c = '-'
  · exact .inl hc
  · right
    rw [number?.eq_2 _ (by simp [hc]), unsigned?] at h
    by_contra hdigit
    have hzero : c ≠ '0' := by
      rintro rfl
      exact hdigit rfl
    have hnone : Numeral.digits? (whole (c :: s)) = none := by
      simp [whole, hzero, hdigit, Numeral.digits?]
    rw [hnone] at h
    split at h
    case h_1 heq => cases heq
    case h_2 => cases h

theorem readsAs_of_number? {w : Written} {s : List Char} {v : Json}
    (h : number? s = some (w, [])) (hv : toJson? levels w = some v) : ReadsAs levels s v := by
  cases s with
  | nil => cases h
  | cons c s =>
    refine readsAs_of_value? (List.cons_ne_nil c s) hv fun fuel rest _ hrest => ?_
    rw [List.cons_append, value?_of_start (start_of_number? h)]
    exact number?_append hrest h

theorem readsAs_string (s : String) : ReadsAs levels (quoted s).toList (.string s) := by
  rw [toList_quoted]
  refine readsAs_of_value? (w := .string (some s)) (List.cons_ne_nil _ _) rfl
    fun fuel rest _ _ => ?_
  rw [List.cons_append]
  change (stringTail [] none false _).map _ = _
  rw [stringTail_foldr, List.reverse_nil, List.nil_append, String.ofList_toList]
  rfl

theorem readsAs_null : ReadsAs levels "null".toList .null :=
  readsAs_of_value? (w := .null) (by decide) rfl fun _ _ _ _ => rfl

theorem readsAs_bool (b : Bool) :
    ReadsAs levels (if b then "true" else "false").toList (.bool b) := by
  cases b with
  | false => exact readsAs_of_value? (w := .bool false) (by decide) rfl fun _ _ _ _ => rfl
  | true => exact readsAs_of_value? (w := .bool true) (by decide) rfl fun _ _ _ _ => rfl

theorem readsAs_nil_array : ReadsAs (levels + 1) "[]".toList (.array []) :=
  readsAs_of_value? (w := .array []) (by decide) rfl fun _ _ _ _ => rfl

theorem readsAs_nil_object : ReadsAs (levels + 1) "\x7b\x7d".toList (.object []) :=
  readsAs_of_value? (w := .object []) (by decide) rfl fun _ _ _ _ => rfl

end Written

/-- Values that text carries without loss over this many levels: numbers whose text is read as
themselves, and objects with each name once. -/
inductive Legible : Nat → Json → Prop where
  | null {levels : Nat} : Legible levels .null
  | bool {levels : Nat} (b : Bool) : Legible levels (.bool b)
  | integer {levels : Nat} {i : Int} (h : -2 ^ 63 ≤ i ∧ i < 2 ^ 64) : Legible levels (.integer i)
  | real {levels : Nat} {x : Double} {w : Written}
      (htext : Written.number? (x.toText Double.Layout.data).toList = some (w, []))
      (h : w.toJson? levels = some (.real x)) : Legible levels (.real x)
  | string {levels : Nat} (s : String) : Legible levels (.string s)
  | array {levels : Nat} {items : List Json} (h : ∀ v ∈ items, Legible levels v) :
      Legible (levels + 1) (.array items)
  | object {levels : Nat} {members : List (String × Json)}
      (hnames : (members.map Prod.fst).Nodup) (h : ∀ m ∈ members, Legible levels m.2) :
      Legible (levels + 1) (.object members)

mutual

/-- The value with the members of its objects in the order of their names. -/
def inOrder : Json → Json
  | .array items => .array (itemsInOrder items)
  | .object members => .object (sortByName (membersInOrder members))
  | .null => .null
  | .bool b => .bool b
  | .integer i => .integer i
  | .real x => .real x
  | .string s => .string s

def itemsInOrder : List Json → List Json
  | [] => []
  | v :: rest => inOrder v :: itemsInOrder rest

def membersInOrder : List (String × Json) → List (String × Json)
  | [] => []
  | (name, v) :: rest => (name, inOrder v) :: membersInOrder rest

end

theorem itemsInOrder_eq_map (items : List Json) : itemsInOrder items = items.map inOrder := by
  induction items with
  | nil => rfl
  | cons v rest ih => rw [itemsInOrder, ih, List.map_cons]

theorem membersInOrder_eq_map (members : List (String × Json)) :
    membersInOrder members = members.map fun m => (m.1, m.2.inOrder) := by
  induction members with
  | nil => rfl
  | cons m rest ih => rw [membersInOrder, ih, List.map_cons]

theorem wideItems_eq_map (depth : Nat) (items : List Json) :
    wideItems depth items = items.map (wide depth) := by
  induction items with
  | nil => rfl
  | cons v rest ih => rw [wideItems, ih, List.map_cons]

theorem wideMembers_eq_map (depth : Nat) (members : List (String × Json)) :
    wideMembers depth members = members.map fun m => (m.1, m.2.wide depth) := by
  induction members with
  | nil => rfl
  | cons m rest ih => rw [wideMembers, ih, List.map_cons]

theorem sortByName_map {α β : Type} (f : α → β) (members : List (String × α)) :
    sortByName (members.map fun m => (m.1, f m.2)) =
      (sortByName members).map fun m => (m.1, f m.2) := by
  unfold sortByName
  exact (List.map_mergeSort (f := fun m : String × α => (m.1, f m.2)) fun _ _ _ _ => rfl).symm

def margin (depth : Nat) : List Char :=
  '\n' :: List.replicate (2 * depth) ' '

theorem all_isSpace_margin (depth : Nat) : (margin depth).all Written.isSpace := by
  simp [margin, Written.isSpace]

theorem listed_eq {first last : List Char} {closing : Char} {parts : List (List Char)}
    (h : parts ≠ []) : Written.listed first last closing parts =
      first ++ (',' :: first).intercalate parts ++ (last ++ [closing]) := by
  induction parts with
  | nil => exact absurd rfl h
  | cons s parts ih =>
    cases parts with
    | nil => simp [Written.listed]
    | cons t parts =>
      rw [Written.listed, ih (by simp), List.intercalate_cons_cons]
      simp

theorem toList_encloseWide {ι : Type} {depth : Nat} {opening closing : String} {a b : Char}
    (ha : opening.toList = [a]) (hb : closing.toList = [b]) {l : List ι} (hne : l ≠ [])
    (text : ι → String) :
    (encloseWide depth opening closing (l.map text)).toList =
      a :: Written.listed (margin (depth + 1)) (margin depth) b
        (l.map fun i => (text i).toList) := by
  rw [listed_eq (by simpa using hne), encloseWide, if_neg (by simpa using hne)]
  simp [margin, ha, hb, Function.comp_def]

theorem whole?_natAbs {i : Int} (h : -2 ^ 63 ≤ i ∧ i < 2 ^ 64) :
    Written.whole? (i < 0) i.natAbs = some (.integer i) := by
  unfold Written.whole?
  by_cases hneg : i < 0
  · rw [if_pos (by simpa using hneg), if_neg (by omega)]
    congr 2
    omega
  · rw [if_neg (by simpa using hneg), if_pos (by omega)]
    congr 2
    omega

/-- The wide form of a value is read as the value, wherever it stands and at whatever depth. -/
theorem readsAs_wide {levels : Nat} {v : Json} (h : Legible levels v) (depth : Nat) :
    Written.ReadsAs levels (v.wide depth).toList v.inOrder := by
  induction h generalizing depth with
  | null => exact Written.readsAs_null
  | bool b => exact Written.readsAs_bool b
  | integer h =>
    exact Written.readsAs_of_number? (Written.number?_toString _) (whole?_natAbs h)
  | real htext h => exact Written.readsAs_of_number? htext h
  | string s => exact Written.readsAs_string s
  | @array levels items h ih =>
    rw [inOrder, wide, itemsInOrder_eq_map, wideItems_eq_map]
    by_cases hne : items = []
    · subst hne
      exact Written.readsAs_nil_array
    · rw [toList_encloseWide rfl rfl hne]
      exact Written.readsAs_array (all_isSpace_margin _) (all_isSpace_margin _) hne
        fun v hv => ih v hv (depth + 1)
  | @object levels members hnames h ih =>
    rw [inOrder, wide, membersInOrder_eq_map, wideMembers_eq_map, sortByName_map, sortByName_map,
      List.map_map]
    have hperm : (sortByName members).Perm members := List.mergeSort_perm _ _
    by_cases hne : sortByName members = []
    · rw [hne]
      exact Written.readsAs_nil_object
    · rw [toList_encloseWide rfl rfl hne]
      have htext (m : String × Json) : (quoted m.1 ++ ": " ++ m.2.wide (depth + 1)).toList =
          Written.named m.1 (m.2.wide (depth + 1)).toList := by
        simp [Written.named]
      simp only [Function.comp_apply, htext]
      exact Written.readsAs_object (all_isSpace_margin _) (all_isSpace_margin _) hne
        ((hperm.map Prod.fst).nodup_iff.2 hnames)
        fun m hm => ih m (hperm.mem_iff.1 hm) (depth + 1)

/-- The printed text of a value is read as the value, whatever blanks follow. -/
theorem ofText?_pretty {v : Json} (h : Legible maxDepth v) {blanks : String}
    (hblanks : blanks.toList.all Written.isSpace) :
    Json.ofText? (v.pretty ++ blanks) = some v.inOrder := by
  obtain ⟨w, hw, hread⟩ := readsAs_wide h 0
  have hapart : Written.Apart blanks.toList := by
    simpa using Written.apart_append (s := []) hblanks trivial
  have hskip := Written.skipSpace_append hblanks []
  rw [List.append_nil] at hskip
  rw [Json.ofText?, Written.ofText?, String.toList_append, pretty,
    hread _ _ (by simp only [List.length_append]; omega) hapart]
  dsimp only
  rw [hskip]
  exact hw

end Courier.Json
