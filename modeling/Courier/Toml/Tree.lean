import Courier.Toml.Basic

/-!
Tables while a file is read. A table is opened once by its own header; a header or dotted key may
pass through tables that nobody opened, and dotted keys may go on only in tables that dotted keys
made.
-/
namespace Courier.Toml

inductive Origin where
  /-- Its own header. -/
  | header
  /-- A header of a table inside it. -/
  | passed
  /-- A dotted key. -/
  | dotted
deriving DecidableEq, Repr

inductive Node where
  | value (v : Value)
  | table (origin : Origin) (entries : List (String × Node))
  /-- Tables under one name; the last one is open. -/
  | tables (list : List (List (String × Node)))

abbrev Entries := List (String × Node)

namespace Entries

def find? (name : String) (entries : Entries) : Option Node :=
  (List.find? (fun e => e.1 == name) entries).map Prod.snd

/-- Sets the node under a name in its place, or as the last one. -/
def set (name : String) (node : Node) : Entries → Entries
  | [] => [(name, node)]
  | e :: rest => if e.1 == name then (name, node) :: rest else e :: set name node rest

def add? (name : String) (node : Node) (entries : Entries) : Option Entries :=
  match entries.find? name with
  | none => some (entries.set name node)
  | some _ => none

def changeLast? (change : Entries → Option Entries) (list : List Entries) :
    Option (List Entries) :=
  match list.getLast? with
  | none => none
  | some last => (change last).map fun last => list.dropLast ++ [last]

/-- Adds a value under a dotted key, whose last part is `name`. -/
def addDotted? (name : String) (v : Value) : List String → Entries → Option Entries
  | [], entries => entries.add? name (.value v)
  | part :: path, entries =>
    match entries.find? part with
    | none => (addDotted? name v path []).map fun inner => entries.set part (.table .dotted inner)
    | some (.table origin inner) =>
      if origin = .header ∨ (path.isEmpty ∧ origin ≠ .dotted) then none
      else (addDotted? name v path inner).map fun inner => entries.set part (.table origin inner)
    | some (.tables list) =>
      if path.isEmpty then none
      else (changeLast? (addDotted? name v path) list).map fun list =>
        entries.set part (.tables list)
    | some (.value _) => none

/-- Changes the table at a path of headers, with tables on the way made as they are passed. -/
def change? (change : Entries → Option Entries) : List String → Entries → Option Entries
  | [], entries => change entries
  | part :: path, entries =>
    match entries.find? part with
    | none => (change? change path []).map fun inner => entries.set part (.table .passed inner)
    | some (.table origin inner) =>
      (change? change path inner).map fun inner => entries.set part (.table origin inner)
    | some (.tables list) =>
      (changeLast? (change? change path) list).map fun list => entries.set part (.tables list)
    | some (.value _) => none

def openTable? (name : String) (entries : Entries) : Option Entries :=
  match entries.find? name with
  | none => some (entries.set name (.table .header []))
  | some (.table .passed inner) => some (entries.set name (.table .header inner))
  | _ => none

/-- Opens one more of the tables under a name. -/
def openNext? (name : String) (entries : Entries) : Option Entries :=
  match entries.find? name with
  | none => some (entries.set name (.tables [[]]))
  | some (.tables list) => some (entries.set name (.tables (list ++ [[]])))
  | _ => none

end Entries

mutual

def Node.toValue : Node → Value
  | .value v => v
  | .table _ entries => .table (entriesToValues entries)
  | .tables list => .array (tablesToValues list)

def entriesToValues : List (String × Node) → List (String × Value)
  | [] => []
  | (name, node) :: rest => (name, node.toValue) :: entriesToValues rest

def tablesToValues : List (List (String × Node)) → List Value
  | [] => []
  | entries :: rest => .table (entriesToValues entries) :: tablesToValues rest

end

end Courier.Toml
