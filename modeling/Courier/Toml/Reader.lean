import Courier.Toml.Scalar
import Courier.Toml.Text
import Courier.Toml.Tree

/-!
Reading settings files: lines with a key and a value, headers that open tables, comments and blank
lines. Values and keys nest to a bounded depth.
-/
namespace Courier.Toml

/-- Keys have fewer parts than this, and values fewer levels. -/
def maxDepth : Nat := 80

def isBlank (c : Char) : Bool :=
  c == ' ' || c == '\t'

def skipBlanks (s : List Char) : List Char :=
  s.dropWhile isBlank

/-- What follows a comment, if one starts here; nothing when it holds a control. -/
def skipComment? : List Char → Option (List Char)
  | '#' :: rest =>
    match rest.dropWhile isPlain with
    | [] => some []
    | '\n' :: rest => some ('\n' :: rest)
    | '\r' :: '\n' :: rest => some ('\n' :: rest)
    | _ => none
  | s => some s

/-- What follows the end of a line, which may have a comment before it. -/
def endLine? (s : List Char) : Option (List Char) :=
  match skipComment? (skipBlanks s) with
  | some [] => some []
  | some ('\n' :: rest) => some rest
  | some ('\r' :: '\n' :: rest) => some rest
  | _ => none

def skipLines? : Nat → List Char → Option (List Char)
  | 0, _ => none
  | fuel + 1, s =>
    match skipComment? (skipBlanks s) with
    | some ('\n' :: rest) => skipLines? fuel rest
    | some ('\r' :: '\n' :: rest) => skipLines? fuel rest
    | r => r

def isKeyChar (c : Char) : Bool :=
  c.isAlphanum || c == '_' || c == '-'

/-- One part of a key, in marks or without. -/
def keyPart? (s : List Char) : Option (String × List Char) :=
  match s with
  | '"' :: rest => basicTail? [] rest
  | '\'' :: rest => literalTail? [] rest
  | s =>
    let name := s.takeWhile isKeyChar
    if name.isEmpty then none else some (String.ofList name, s.drop name.length)

/-- The parts of a key, with dots between them and blanks around them. -/
def keyParts? : Nat → List Char → Option (List String × List Char)
  | 0, _ => none
  | fuel + 1, s =>
    match keyPart? (skipBlanks s) with
    | none => none
    | some (part, rest) =>
      match skipBlanks rest with
      | '.' :: rest => (keyParts? fuel rest).map fun (parts, rest) => (part :: parts, rest)
      | rest => some ([part], rest)

/-- A key as the parts before its last one, and that one. -/
def key? (s : List Char) : Option (List String × String × List Char) :=
  match keyParts? (maxDepth - 1) s with
  | none => none
  | some (parts, rest) => parts.getLast?.map fun name => (parts.dropLast, name, rest)

/-- Characters of values that are no strings and not made of others. -/
def isScalarChar (c : Char) : Bool :=
  c.isAlphanum || c == '+' || c == '-' || c == '_' || c == '.' || c == ':'

/-- A value without marks or brackets. A date and a time may be parted by a blank. -/
def plainValue? (s : List Char) : Option (Value × List Char) :=
  let word := s.takeWhile isScalarChar
  let rest := s.drop word.length
  let whole := (scalar? word).map (·, rest)
  match rest with
  | ' ' :: more =>
    let time := more.takeWhile isScalarChar
    match Moment.ofText? (word ++ ' ' :: time) with
    | some m => some (.moment m.toText, more.drop time.length)
    | none => whole
  | _ => whole

mutual

/-- Reads one value inside `depth` others. -/
def value? : Nat → Nat → List Char → Option (Value × List Char)
  | 0, _, _ => none
  | fuel + 1, depth, s =>
    match s with
    | '"' :: _ => (string? s).map fun (t, rest) => (.string t, rest)
    | '\'' :: _ => (string? s).map fun (t, rest) => (.string t, rest)
    | '[' :: rest =>
      if maxDepth ≤ depth + 1 then none else items? fuel (depth + 1) [] rest
    | '{' :: rest =>
      if maxDepth ≤ depth + 1 then none
      else
        match skipBlanks rest with
        | '}' :: rest => some (.table [], rest)
        | rest => members? fuel (depth + 1) [] rest
    | s => plainValue? s

/-- Reads the items of an array up to its end; `read` are those before, backwards. -/
def items? : Nat → Nat → List Value → List Char → Option (Value × List Char)
  | 0, _, _, _ => none
  | fuel + 1, depth, read, s =>
    match skipLines? (s.length + 1) s with
    | none => none
    | some (']' :: rest) => some (.array read.reverse, rest)
    | some s =>
      match value? fuel depth s with
      | none => none
      | some (v, rest) =>
        match skipLines? (rest.length + 1) rest with
        | some (',' :: rest) => items? fuel depth (v :: read) rest
        | some (']' :: rest) => some (.array (v :: read).reverse, rest)
        | _ => none

def members? : Nat → Nat → Entries → List Char → Option (Value × List Char)
  | 0, _, _, _ => none
  | fuel + 1, depth, entries, s =>
    match key? s with
    | some (path, name, '=' :: rest) =>
      match value? fuel depth (skipBlanks rest) with
      | none => none
      | some (v, rest) =>
        match entries.addDotted? name v path with
        | none => none
        | some entries =>
          match skipBlanks rest with
          | ',' :: rest => members? fuel depth entries rest
          | '}' :: rest => some ((Node.table .header entries).toValue, rest)
          | _ => none
    | _ => none

end

/-- The tables so far and the path of the one that is open. -/
structure Draft where
  root : Entries
  path : List String

def Draft.header? (d : Draft) (s : List Char) : Option (Draft × List Char) :=
  match key? s with
  | some (path, name, ']' :: rest) =>
    (d.root.change? (Entries.openTable? name) path).map fun root => (⟨root, path ++ [name]⟩, rest)
  | _ => none

/-- Reads a header of one more table of several, after its brackets. -/
def Draft.nextHeader? (d : Draft) (s : List Char) : Option (Draft × List Char) :=
  match key? s with
  | some (path, name, ']' :: ']' :: rest) =>
    (d.root.change? (Entries.openNext? name) path).map fun root => (⟨root, path ++ [name]⟩, rest)
  | _ => none

def Draft.entry? (d : Draft) (s : List Char) : Option (Draft × List Char) :=
  match key? s with
  | some (path, name, '=' :: rest) =>
    let rest := skipBlanks rest
    match value? (2 * rest.length + 2) 0 rest with
    | none => none
    | some (v, rest) =>
      (d.root.change? (Entries.addDotted? name v path) d.path).map fun root => ({ d with root }, rest)
  | _ => none

/-- Reads one line that is neither blank nor a comment. -/
def Draft.line? (d : Draft) (s : List Char) : Option (Draft × List Char) :=
  match s with
  | '[' :: '[' :: rest => d.nextHeader? rest
  | '[' :: rest => d.header? rest
  | s => d.entry? s

/-- Reads the lines up to the end. Each takes at least one character. -/
def Draft.lines? : Nat → Draft → List Char → Option Draft
  | 0, _, _ => none
  | fuel + 1, d, s =>
    match skipLines? (s.length + 1) s with
    | none => none
    | some [] => some d
    | some s =>
      match d.line? s with
      | none => none
      | some (d, rest) =>
        match endLine? rest with
        | none => none
        | some rest => lines? fuel d rest

/-- Reads a file, whose first character may be a byte order mark. -/
def ofText? (s : String) : Option Value :=
  let s := match s.toList with
    | '\uFEFF' :: rest => rest
    | s => s
  (Draft.lines? (s.length + 1) ⟨[], []⟩ s).map fun d => (Node.table .header d.root).toValue

end Courier.Toml
