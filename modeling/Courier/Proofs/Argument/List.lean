import Courier.Argument.List
import Mathlib.Data.List.Nodup

/-! Argument lists that are set from entries. -/
namespace Courier

/-- A value under a new name comes last. -/
theorem putEntry_of_not_mem {α : Type} {name : String} {value : α} {entries : List (String × α)}
    (h : name ∉ entries.map Prod.fst) : putEntry name value entries = entries ++ [(name, value)] := by
  induction entries with
  | nil => rfl
  | cons e rest ih =>
    rw [List.map_cons, List.mem_cons, not_or] at h
    rw [putEntry, if_neg (Ne.symm h.1), ih h.2]
    rfl

namespace Arguments

theorem entries_foldl_insert (a : Arguments) (l : List (String × ArgumentValue))
    (h : ((a.entries ++ l).map Prod.fst).Nodup) :
    (l.foldl (fun a e => a.insert e.1 e.2) a).entries = a.entries ++ l := by
  induction l generalizing a with
  | nil => simp
  | cons e rest ih =>
    have hnew : e.1 ∉ a.entries.map Prod.fst := by
      intro hmem
      rw [List.map_append, List.nodup_append] at h
      exact h.2.2 _ hmem _ (by simp) rfl
    have hinsert : (a.insert e.1 e.2).entries = a.entries ++ [e] := putEntry_of_not_mem hnew
    rw [List.foldl_cons, ih (a.insert e.1 e.2) (by simpa [hinsert] using h), hinsert]
    simp

/-- Where no name comes twice, every entry is kept as it was set. -/
theorem entries_ofList {l : List (String × ArgumentValue)} (h : (l.map Prod.fst).Nodup) :
    (ofList l).entries = l :=
  entries_foldl_insert empty l h

end Arguments
end Courier
