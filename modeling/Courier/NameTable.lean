/-! Tables of values under names. Each name is there once, and the names ascend. -/
namespace Courier

/-- Values under names, in ascending order of the names. -/
structure NameTable (α : Type) where
  entries : List (String × α)
  ascending : entries.Pairwise fun d e => d.1 < e.1
deriving DecidableEq, Repr

/-- Puts an entry into a list in ascending order of names, over an older one of its name. -/
def insertByName {α : Type} (name : String) (value : α) : List (String × α) → List (String × α)
  | [] => [(name, value)]
  | e :: rest =>
    if name < e.1 then (name, value) :: e :: rest
    else if e.1 = name then (name, value) :: rest
    else e :: insertByName name value rest

theorem mem_insertByName {α : Type} {name : String} {value : α} {entries : List (String × α)}
    {e : String × α} (h : e ∈ insertByName name value entries) :
    e = (name, value) ∨ e ∈ entries := by
  induction entries with
  | nil => exact .inl (List.mem_singleton.1 h)
  | cons d rest ih =>
    simp only [insertByName] at h
    split at h
    · exact List.mem_cons.1 h
    · split at h
      · exact (List.mem_cons.1 h).imp_right (List.mem_cons_of_mem d)
      · rcases List.mem_cons.1 h with rfl | hrest
        · exact .inr List.mem_cons_self
        · exact (ih hrest).imp_right (List.mem_cons_of_mem d)

theorem pairwise_insertByName {α : Type} {entries : List (String × α)}
    (h : entries.Pairwise fun d e => d.1 < e.1) (name : String) (value : α) :
    (insertByName name value entries).Pairwise fun d e => d.1 < e.1 := by
  induction entries with
  | nil => exact List.pairwise_singleton _ _
  | cons d rest ih =>
    obtain ⟨hd, hrest⟩ := List.pairwise_cons.1 h
    simp only [insertByName]
    split
    case isTrue hlt =>
      refine List.pairwise_cons.2 ⟨fun e he => ?_, h⟩
      rcases List.mem_cons.1 he with rfl | he
      · exact hlt
      · exact String.lt_trans hlt (hd e he)
    case isFalse hnlt =>
      split
      case isTrue heq => exact List.pairwise_cons.2 ⟨heq ▸ hd, hrest⟩
      case isFalse hne =>
        have hgt : d.1 < name := Std.lt_of_le_of_ne (String.not_lt.1 hnlt) hne
        refine List.pairwise_cons.2 ⟨fun e he => ?_, ih hrest⟩
        rcases mem_insertByName he with rfl | he
        · exact hgt
        · exact hd e he

namespace NameTable

variable {α : Type}

def empty : NameTable α := ⟨[], .nil⟩

def get? (t : NameTable α) (name : String) : Option α :=
  (t.entries.find? fun e => e.1 == name).map Prod.snd

def insert (t : NameTable α) (name : String) (value : α) : NameTable α :=
  ⟨insertByName name value t.entries, pairwise_insertByName t.ascending name value⟩

/-- The table of some entries, where the last one of a name is the one that counts. -/
def ofList (entries : List (String × α)) : NameTable α :=
  entries.foldl (fun t e => t.insert e.1 e.2) empty

/-- An entry is found under its name. -/
theorem get?_eq_some_of_mem {t : NameTable α} {e : String × α} (h : e ∈ t.entries) :
    t.get? e.1 = some e.2 := by
  have hfind : t.entries.find? (fun d => d.1 == e.1) = some e := by
    obtain ⟨entries, hascending⟩ := t
    induction entries with
    | nil => cases h
    | cons d rest ih =>
      obtain ⟨hd, hrest⟩ := List.pairwise_cons.1 hascending
      rcases List.mem_cons.1 h with rfl | he
      · exact List.find?_cons_of_pos (beq_self_eq_true _)
      · have hne : d.1 ≠ e.1 := fun heq => String.lt_irrefl _ (heq ▸ hd e he)
        rw [List.find?_cons_of_neg (by simpa using hne)]
        exact ih hrest he
  rw [get?, hfind, Option.map_some]

end NameTable
end Courier
