import Courier.Argument.Named

/-!
Argument lists: values under names, in the order in which the names first came, each name once.
-/
namespace Courier

/-- Replaces the value under a name in its place, or adds a new last entry. -/
def putEntry {α : Type} (name : String) (value : α) : List (String × α) → List (String × α)
  | [] => [(name, value)]
  | e :: rest => if e.1 = name then (name, value) :: rest else e :: putEntry name value rest

theorem map_fst_putEntry {α : Type} (name : String) (value : α) (entries : List (String × α)) :
    (putEntry name value entries).map Prod.fst =
      if name ∈ entries.map Prod.fst then entries.map Prod.fst
      else entries.map Prod.fst ++ [name] := by
  induction entries with
  | nil => rfl
  | cons e rest ih =>
    by_cases h : e.1 = name
    · simp [putEntry, h]
    · have h' : name ≠ e.1 := fun hn => h hn.symm
      simp only [putEntry, if_neg h, List.map_cons, ih, List.mem_cons, h', false_or]
      split <;> simp

structure Arguments where
  entries : List (String × ArgumentValue)
  names_nodup : (entries.map Prod.fst).Nodup
deriving DecidableEq, Repr

namespace Arguments

def empty : Arguments := ⟨[], List.nodup_nil⟩

instance : EmptyCollection Arguments := ⟨empty⟩
instance : Inhabited Arguments := ⟨empty⟩

/-- Sets the value under a name. A name that is there already keeps its place. -/
def insert (a : Arguments) (name : String) (value : ArgumentValue) : Arguments where
  entries := putEntry name value a.entries
  names_nodup := by
    rw [map_fst_putEntry]
    split
    · exact a.names_nodup
    · next h =>
      rw [List.nodup_append]
      refine ⟨a.names_nodup, by simp, fun x hx y hy => ?_⟩
      rw [List.mem_singleton.1 hy]
      exact fun hxy => h (hxy ▸ hx)

def insertNamed (a : Arguments) (arg : NamedArgument) : Arguments :=
  a.insert arg.name arg.value

/-- The arguments that come of setting each entry in turn. -/
def ofList (entries : List (String × ArgumentValue)) : Arguments :=
  entries.foldl (fun a e => a.insert e.1 e.2) empty

def get? (a : Arguments) (name : String) : Option ArgumentValue :=
  (a.entries.find? fun e => e.1 == name).map Prod.snd

def names (a : Arguments) : List String :=
  a.entries.map Prod.fst

def size (a : Arguments) : Nat :=
  a.entries.length

def isEmpty (a : Arguments) : Bool :=
  a.entries.isEmpty

/-- A list of pairs of a name and a typed value. -/
def toJson (a : Arguments) : Json :=
  .array (a.entries.map fun e => .array [.string e.1, e.2.toJson])

end Arguments
end Courier
