import Courier.Double.Shortest
import Courier.Json.Basic
import Courier.Text.Quoted

/-!
JSON text. Members are written in ascending order of their names; the wide form puts each item on
a line of its own, two blanks deeper than what holds it.
-/
namespace Courier.Json

def escape (c : Char) : List Char :=
  if c = '"' then ['\\', '"']
  else if c = '\\' then ['\\', '\\']
  else if c = '\x08' then ['\\', 'b']
  else if c = '\x0c' then ['\\', 'f']
  else if c = '\n' then ['\\', 'n']
  else if c = '\r' then ['\\', 'r']
  else if c = '\t' then ['\\', 't']
  else if c.toNat < 0x20 then
    '\\' :: 'u' :: '0' :: '0' :: [Nat.digitChar (c.toNat / 16), Nat.digitChar (c.toNat % 16)]
  else [c]

def quoted (s : String) : String :=
  String.ofList ('"' :: s.toList.foldr (fun c t => escape c ++ t) ['"'])

def sortByName {α : Type} (members : List (String × α)) : List (String × α) :=
  members.mergeSort fun a b => a.1 ≤ b.1

/-- Items between brackets without any blanks. -/
def enclose (opening closing : String) (parts : List String) : String :=
  opening ++ ",".intercalate parts ++ closing

mutual

def compact : Json → String
  | .null => "null"
  | .bool b => if b then "true" else "false"
  | .integer i => toString i
  | .real x => x.toText Double.Layout.data
  | .string s => quoted s
  | .array items => enclose "[" "]" (compactItems items)
  | .object members =>
    enclose "\x7b" "\x7d"
      ((sortByName (compactMembers members)).map fun (name, v) => quoted name ++ ":" ++ v)

def compactItems : List Json → List String
  | [] => []
  | v :: rest => compact v :: compactItems rest

def compactMembers : List (String × Json) → List (String × String)
  | [] => []
  | (name, v) :: rest => (name, compact v) :: compactMembers rest

end

/-- Items between brackets, each on its own line at `depth + 1`. -/
def encloseWide (depth : Nat) (opening closing : String) (parts : List String) : String :=
  if parts.isEmpty then opening ++ closing
  else
    let margin (d : Nat) : String := "\n" ++ String.ofList (List.replicate (2 * d) ' ')
    opening ++ margin (depth + 1) ++ (("," ++ margin (depth + 1)).intercalate parts) ++
      margin depth ++ closing

mutual

/-- The value in its wide form, where it stands at `depth`. -/
def wide (depth : Nat) : Json → String
  | .array items => encloseWide depth "[" "]" (wideItems (depth + 1) items)
  | .object members =>
    encloseWide depth "\x7b" "\x7d"
      ((sortByName (wideMembers (depth + 1) members)).map fun (name, v) =>
        quoted name ++ ": " ++ v)
  | .null => "null"
  | .bool b => if b then "true" else "false"
  | .integer i => toString i
  | .real x => x.toText Double.Layout.data
  | .string s => quoted s

def wideItems (depth : Nat) : List Json → List String
  | [] => []
  | v :: rest => wide depth v :: wideItems depth rest

def wideMembers (depth : Nat) : List (String × Json) → List (String × String)
  | [] => []
  | (name, v) :: rest => (name, wide depth v) :: wideMembers depth rest

end

def pretty (v : Json) : String :=
  v.wide 0

end Courier.Json
