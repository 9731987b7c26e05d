import Courier.Argument.List
import Mathlib.Data.Finset.Card

/-!
Argument lists against the history of what was set in them: the names stand in the order in which
they first came, and under each is the value that was set last.
-/
namespace Courier

theorem find?_putEntry {α : Type} (name : String) (value : α) (entries : List (String × α))
    (key : String) :
    (putEntry name value entries).find? (fun e => e.1 == key) =
      if key = name then some (name, value) else entries.find? fun e => e.1 == key := by
  induction entries with
  | nil =>
    by_cases hkey : key = name
    · simp [putEntry, hkey]
    · simp [putEntry, hkey, Ne.symm hkey]
  | cons e rest ih =>
    unfold putEntry
    by_cases hname : e.1 = name
    · by_cases hkey : key = name
      · simp [hname, hkey]
      · simp [hname, hkey, Ne.symm hkey]
    · have hother : key = name → (e.1 == key) = false := fun hkey => by simpa [hkey] using hname
      rw [if_neg hname, List.find?_cons, List.find?_cons, ih]
      by_cases hkey : key = name
      · simp only [hother hkey, if_pos hkey]
      · simp only [if_neg hkey]

namespace Arguments

theorem names_insert (a : Arguments) (name : String) (value : ArgumentValue) :
    (a.insert name value).names = if name ∈ a.names then a.names else a.names ++ [name] :=
  map_fst_putEntry name value a.entries

theorem get?_insert (a : Arguments) (name : String) (value : ArgumentValue) (key : String) :
    (a.insert name value).get? key = if key = name then some value else a.get? key := by
  have hfind := find?_putEntry name value a.entries key
  unfold get? insert
  rw [hfind]
  split <;> rfl

theorem get?_insert_comm (a : Arguments) {m n : String} (hne : m ≠ n) (v w : ArgumentValue)
    (key : String) :
    ((a.insert m v).insert n w).get? key = ((a.insert n w).insert m v).get? key := by
  simp only [get?_insert]
  by_cases hm : key = m
  · have hn : key ≠ n := fun h => hne (hm.symm.trans h)
    rw [if_neg hn, if_pos hm, if_pos hm]
  · rw [if_neg hm, if_neg hm]

/-- Since no name comes twice, a name leads to the entry that holds it. -/
theorem get?_of_mem {a : Arguments} {e : String × ArgumentValue} (h : e ∈ a.entries) :
    a.get? e.1 = some e.2 := by
  have hfind : a.entries.find? (fun e' => e'.1 == e.1) = some e := by
    obtain ⟨before, after, hsplit⟩ := List.append_of_mem h
    have hnodup := a.names_nodup
    rw [hsplit, List.map_append, List.nodup_append] at hnodup
    rw [hsplit, List.find?_append, List.find?_eq_none.2 fun e' he' => ?_]
    · simp
    · have hne := hnodup.2.2 e'.1 (List.mem_map_of_mem he') e.1 (by simp)
      simpa using hne
  unfold get?
  rw [hfind]
  rfl

/-- The entries are the names with their values. -/
theorem entries_eq_filterMap (a : Arguments) :
    a.entries = a.names.filterMap fun n => (a.get? n).map (n, ·) := by
  have hself : ∀ e ∈ a.entries, ((fun n => (a.get? n).map (n, ·)) ∘ Prod.fst) e = some e := by
    intro e he
    simp only [Function.comp_apply, get?_of_mem he]
    rfl
  unfold names
  rw [List.filterMap_map, List.filterMap_congr hself, List.filterMap_some]

/-- What a list of arguments is after a history of settings. -/
structure Tracks (history : List (String × ArgumentValue)) (a : Arguments) : Prop where
  mem_names (n : String) : n ∈ a.names ↔ n ∈ history.map Prod.fst
  ordered : a.names.Pairwise fun m n =>
    (history.map Prod.fst).idxOf m < (history.map Prod.fst).idxOf n
  get?_eq (n : String) : a.get? n = ((history.filter (·.1 = n)).getLast?).map Prod.snd

theorem tracks_empty : Tracks [] ∅ where
  mem_names _ := Iff.rfl
  ordered := List.Pairwise.nil
  get?_eq _ := rfl

theorem Tracks.insert {history : List (String × ArgumentValue)} {a : Arguments}
    (h : Tracks history a) (name : String) (value : ArgumentValue) :
    Tracks (history ++ [(name, value)]) (a.insert name value) := by
  have hkeep {m : String} (hm : m ∈ a.names) :
      ((history ++ [(name, value)]).map Prod.fst).idxOf m = (history.map Prod.fst).idxOf m := by
    rw [List.map_append, List.idxOf_append_of_mem ((h.mem_names m).1 hm)]
  have hordered : a.names.Pairwise fun m n =>
      ((history ++ [(name, value)]).map Prod.fst).idxOf m <
        ((history ++ [(name, value)]).map Prod.fst).idxOf n :=
    h.ordered.imp_of_mem fun hm hn hlt => by rwa [hkeep hm, hkeep hn]
  constructor
  case mem_names =>
    intro n
    rw [names_insert, List.map_append, List.mem_append, ← h.mem_names]
    split
    case isTrue hname =>
      have hold : n ∈ [name] → n ∈ a.names := fun hn => List.mem_singleton.1 hn ▸ hname
      exact ⟨Or.inl, fun hn => hn.elim id hold⟩
    case isFalse => exact List.mem_append
  case ordered =>
    rw [names_insert]
    split
    case isTrue => exact hordered
    case isFalse hname =>
      -- The new name first comes where the old history ends.
      have hlast : ((history ++ [(name, value)]).map Prod.fst).idxOf name = history.length := by
        rw [List.map_append, List.idxOf_append_of_notMem (mt (h.mem_names name).2 hname)]
        simp
      refine List.pairwise_append.2 ⟨hordered, List.pairwise_singleton _ _, fun m hm n hn => ?_⟩
      have hlt := List.idxOf_lt_length_of_mem ((h.mem_names m).1 hm)
      rw [List.mem_singleton.1 hn, hkeep hm, hlast]
      simpa using hlt
  case get?_eq =>
    intro n
    rw [get?_insert, h.get?_eq]
    by_cases hn : n = name
    · simp [hn]
    · simp [hn, Ne.symm hn]

theorem tracks_ofList (history : List (String × ArgumentValue)) :
    Tracks history (ofList history) := by
  induction history using List.reverseRecOn with
  | nil => exact tracks_empty
  | append_singleton history e ih =>
    have hstep : ofList (history ++ [e]) = (ofList history).insert e.1 e.2 := List.foldl_concat ..
    rw [hstep]
    exact ih.insert e.1 e.2

namespace Tracks

variable {history : List (String × ArgumentValue)} {a : Arguments}

theorem get?_eq_none_iff (h : Tracks history a) (n : String) :
    a.get? n = none ↔ n ∉ history.map Prod.fst := by
  rw [h.get?_eq, Option.map_eq_none_iff, List.getLast?_eq_none_iff, List.filter_eq_nil_iff]
  simp only [decide_eq_true_eq, List.mem_map, not_exists, not_and]

theorem size_eq (h : Tracks history a) : a.size = (history.map Prod.fst).toFinset.card := by
  have hsame : a.names.toFinset = (history.map Prod.fst).toFinset := by
    ext n
    rw [List.mem_toFinset, List.mem_toFinset, h.mem_names]
  have hdistinct : a.names.toFinset.card = a.names.length :=
    List.toFinset_card_of_nodup a.names_nodup
  rw [← hsame, hdistinct]
  exact (List.length_map Prod.fst).symm

end Tracks

/-- However often names come again in a history of settings: the names that are left are distinct
and in the order in which they first came, a name leads to the value that was set last under it,
the size counts the different names, and what is listed and written is exactly these names with
these values. Settings under different names can change places as far as look-ups go. -/
theorem ofList_follows_history (history : List (String × ArgumentValue)) :
    (ofList history).names.Nodup ∧
    (∀ n, n ∈ (ofList history).names ↔ n ∈ history.map Prod.fst) ∧
    ((ofList history).names.Pairwise fun m n =>
      (history.map Prod.fst).idxOf m < (history.map Prod.fst).idxOf n) ∧
    (∀ n, (ofList history).get? n = ((history.filter (·.1 = n)).getLast?).map Prod.snd) ∧
    (∀ n, (ofList history).get? n = none ↔ n ∉ history.map Prod.fst) ∧
    (ofList history).size = (history.map Prod.fst).toFinset.card ∧
    (ofList history).entries =
      ((ofList history).names.filterMap fun n => ((ofList history).get? n).map (n, ·)) ∧
    (ofList history).toJson =
      .array ((ofList history).names.filterMap fun n => ((ofList history).get? n).map fun v =>
        .array [.string n, .object [("cl_type", v.typeTag), ("parsed", v.readable)]]) ∧
    ∀ (a : Arguments) (m n : String) (v w : ArgumentValue), m ≠ n →
      ∀ key, ((a.insert m v).insert n w).get? key = ((a.insert n w).insert m v).get? key := by
  have htracks := tracks_ofList history
  have hjson : (ofList history).toJson =
      .array ((ofList history).names.filterMap fun n => ((ofList history).get? n).map fun v =>
        .array [.string n, .object [("cl_type", v.typeTag), ("parsed", v.readable)]]) := by
    unfold toJson
    rw [entries_eq_filterMap, List.map_filterMap]
    simp only [Option.map_map]
    rfl
  refine ⟨(ofList history).names_nodup, htracks.mem_names, htracks.ordered, htracks.get?_eq,
    htracks.get?_eq_none_iff, htracks.size_eq, entries_eq_filterMap _, hjson, ?_⟩
  intro a m n v w hne key
  exact get?_insert_comm a hne v w key

/-- A history in which a name comes again. -/
def sampleHistory : List (String × ArgumentValue) :=
  [("pool_id", .u64 1), ("amount", .u64 5), ("pool_id", .u64 2)]

/-- After it, two more settings in both orders. -/
theorem ofList_follows_history_sample :
    (ofList sampleHistory).get? "pool_id" = some (.u64 2) ∧ (ofList sampleHistory).size = 2 ∧
      "memo" ≠ "fee" ∧
      ∀ key, (((ofList sampleHistory).insert "memo" (.u64 7)).insert "fee" (.u64 8)).get? key =
        (((ofList sampleHistory).insert "fee" (.u64 8)).insert "memo" (.u64 7)).get? key := by
  obtain ⟨-, -, -, hget, -, hsize, -, -, hswap⟩ := ofList_follows_history sampleHistory
  have hdistinct : ((sampleHistory.map Prod.fst).toFinset).card = 2 := by decide
  exact ⟨hget "pool_id", hsize.trans hdistinct, by decide, hswap _ _ _ _ _ (by decide)⟩

end Arguments
end Courier
