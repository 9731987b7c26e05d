import Courier.Numeral

/-!
Strings. Those in double marks know escapes, those in single marks do not; three marks of a kind
allow line ends.
-/
namespace Courier.Toml

/-- Characters that may stand in a line: no controls but the tab. -/
def isPlain (c : Char) : Bool :=
  c == '\t' || (0x20 ≤ c.toNat && c.toNat != 0x7F)

def numbered? (digits : List Char) : Option Char :=
  match Numeral.accumulate? 16 0 digits with
  | some n => if n.isValidChar then some (Char.ofNat n) else none
  | none => none

def escaped? (c : Char) : Option Char :=
  if c = 'b' then some '\x08'
  else if c = 't' then some '\t'
  else if c = 'n' then some '\n'
  else if c = 'f' then some '\x0c'
  else if c = 'r' then some '\r'
  else if c = '"' then some '"'
  else if c = '\\' then some '\\'
  else none

/-- A string in double marks after the first; `read` is what was read, backwards. -/
def basicTail? (read : List Char) : List Char → Option (String × List Char)
  | [] => none
  | '"' :: rest => some (String.ofList read.reverse, rest)
  | '\\' :: 'u' :: a :: b :: c :: d :: rest =>
    match numbered? [a, b, c, d] with
    | some x => basicTail? (x :: read) rest
    | none => none
  | '\\' :: 'U' :: a :: b :: c :: d :: e :: f :: g :: h :: rest =>
    match numbered? [a, b, c, d, e, f, g, h] with
    | some x => basicTail? (x :: read) rest
    | none => none
  | '\\' :: c :: rest =>
    match escaped? c with
    | some x => basicTail? (x :: read) rest
    | none => none
  | c :: rest => if isPlain c ∧ c ≠ '\\' then basicTail? (c :: read) rest else none

def literalTail? (read : List Char) : List Char → Option (String × List Char)
  | [] => none
  | c :: rest =>
    if c = '\'' then some (String.ofList read.reverse, rest)
    else if isPlain c then literalTail? (c :: read) rest
    else none

/-- What follows a line end at the beginning, if there is one. -/
def skipLineEnd : List Char → List Char
  | '\n' :: rest => rest
  | '\r' :: '\n' :: rest => rest
  | s => s

def lineEndsHere : List Char → Bool
  | ' ' :: rest => lineEndsHere rest
  | '\t' :: rest => lineEndsHere rest
  | '\n' :: _ => true
  | '\r' :: '\n' :: _ => true
  | _ => false

/-- A string in three double marks after them. In `folding` mode, after a backslash at the end of a
line, blanks and line ends are passed over. -/
def longBasicTail? (folding : Bool) (read : List Char) :
    List Char → Option (String × List Char)
  | [] => none
  | '"' :: '"' :: '"' :: '"' :: '"' :: rest =>
    some (String.ofList ('"' :: '"' :: read).reverse, rest)
  | '"' :: '"' :: '"' :: '"' :: rest => some (String.ofList ('"' :: read).reverse, rest)
  | '"' :: '"' :: '"' :: rest => some (String.ofList read.reverse, rest)
  | '\r' :: '\n' :: rest => longBasicTail? folding (if folding then read else '\n' :: read) rest
  | '\n' :: rest => longBasicTail? folding (if folding then read else '\n' :: read) rest
  | '\\' :: 'u' :: a :: b :: c :: d :: rest =>
    match numbered? [a, b, c, d] with
    | some x => longBasicTail? false (x :: read) rest
    | none => none
  | '\\' :: 'U' :: a :: b :: c :: d :: e :: f :: g :: h :: rest =>
    match numbered? [a, b, c, d, e, f, g, h] with
    | some x => longBasicTail? false (x :: read) rest
    | none => none
  | '\\' :: c :: rest =>
    if lineEndsHere (c :: rest) then longBasicTail? true read rest
    else
      match escaped? c with
      | some x => longBasicTail? false (x :: read) rest
      | none => none
  | c :: rest =>
    if folding ∧ (c = ' ' ∨ c = '\t') then longBasicTail? true read rest
    else if isPlain c ∧ c ≠ '\\' then longBasicTail? false (c :: read) rest
    else none

def longLiteralTail? (read : List Char) : List Char → Option (String × List Char)
  | [] => none
  | '\'' :: '\'' :: '\'' :: '\'' :: '\'' :: rest =>
    some (String.ofList ('\'' :: '\'' :: read).reverse, rest)
  | '\'' :: '\'' :: '\'' :: '\'' :: rest => some (String.ofList ('\'' :: read).reverse, rest)
  | '\'' :: '\'' :: '\'' :: rest => some (String.ofList read.reverse, rest)
  | '\r' :: '\n' :: rest => longLiteralTail? ('\n' :: read) rest
  | c :: rest => if isPlain c ∨ c = '\n' then longLiteralTail? (c :: read) rest else none

def string? : List Char → Option (String × List Char)
  | '"' :: '"' :: '"' :: rest => longBasicTail? false [] (skipLineEnd rest)
  | '\'' :: '\'' :: '\'' :: rest => longLiteralTail? [] (skipLineEnd rest)
  | '"' :: rest => basicTail? [] rest
  | '\'' :: rest => literalTail? [] rest
  | _ => none

end Courier.Toml
