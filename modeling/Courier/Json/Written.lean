import Courier.Double.Basic
import Courier.Json.Basic
import Courier.Numeral

/-!
JSON text as it is written, before anything is made of it. Repeated members, numbers beyond every
range and lone surrogates are all still there, so that whoever reads on decides what to look at.
-/
namespace Courier.Json

/-- A JSON text. A string is missing when an escape in it names half a character. -/
inductive Written where
  | null
  | bool (b : Bool)
  | integer (negative : Bool) (magnitude : Nat)
  /-- The digits before and after the point, and the exponent, zero if there is none. -/
  | decimal (negative : Bool) (whole part : List Char) (exponent : Int)
  | string (text : Option String)
  | array (items : List Written)
  | object (members : List (Option String × Written))
deriving Repr, Inhabited

namespace Written

def isSpace (c : Char) : Bool :=
  c == ' ' || c == '\n' || c == '\t' || c == '\r'

def skipSpace (s : List Char) : List Char :=
  s.dropWhile isSpace

def unit? (a b c d : Char) : Option Nat :=
  Numeral.accumulate? 16 0 [a, b, c, d]

def escaped? (c : Char) : Option Char :=
  if c = '"' then some '"'
  else if c = '\\' then some '\\'
  else if c = '/' then some '/'
  else if c = 'b' then some '\x08'
  else if c = 'f' then some '\x0c'
  else if c = 'n' then some '\n'
  else if c = 'r' then some '\r'
  else if c = 't' then some '\t'
  else none

def isHigh (n : Nat) : Bool := 0xD800 ≤ n && n ≤ 0xDBFF

def isLow (n : Nat) : Bool := 0xDC00 ≤ n && n ≤ 0xDFFF

/-- Reads a string after its opening mark. `read` is what was read, backwards; `high` is a first
half that waits for its second; `broken` remembers a half without the other. -/
def stringTail (read : List Char) (high : Option Nat) (broken : Bool) :
    List Char → Option (Option String × List Char)
  | [] => none
  | '"' :: rest =>
    some (if broken || high.isSome then none else some (String.ofList read.reverse), rest)
  | '\\' :: 'u' :: a :: b :: c :: d :: rest =>
    match unit? a b c d with
    | none => none
    | some n =>
      match high with
      | some h =>
        if isLow n then
          stringTail (Char.ofNat (0x10000 + (h - 0xD800) * 0x400 + (n - 0xDC00)) :: read) none
            broken rest
        else stringTail read none true rest
      | none =>
        if isHigh n then stringTail read (some n) broken rest
        else if isLow n then stringTail read none true rest
        else stringTail (Char.ofNat n :: read) none broken rest
  | '\\' :: c :: rest =>
    match escaped? c with
    | none => none
    | some e => stringTail (e :: read) none (broken || high.isSome) rest
  | c :: rest =>
    if c.toNat < 0x20 ∨ c = '\\' then none
    else stringTail (c :: read) none (broken || high.isSome) rest

def fraction? : List Char → Option (List Char × List Char)
  | '.' :: rest =>
    let part := rest.takeWhile Char.isDigit
    if part.isEmpty then none else some (part, rest.dropWhile Char.isDigit)
  | s => some ([], s)

def sign : List Char → Bool × List Char
  | '-' :: rest => (true, rest)
  | '+' :: rest => (false, rest)
  | s => (false, s)

def exponent? : List Char → Option (Option Int × List Char)
  | [] => some (none, [])
  | c :: rest =>
    if c = 'e' ∨ c = 'E' then
      let (negative, rest) := sign rest
      (Numeral.digits? (rest.takeWhile Char.isDigit)).map fun (n : Nat) =>
        (some (if negative then -(n : Int) else n), rest.dropWhile Char.isDigit)
    else some (none, c :: rest)

/-- The digits before the point. A leading zero stands alone. -/
def whole : List Char → List Char
  | '0' :: _ => ['0']
  | s => s.takeWhile Char.isDigit

def unsigned? (negative : Bool) (s : List Char) : Option (Written × List Char) :=
  match fraction? (s.drop (whole s).length), Numeral.digits? (whole s) with
  | some (part, rest), some n =>
    (exponent? rest).map fun (exponent, rest) =>
      if part.isEmpty ∧ exponent = none then (.integer negative n, rest)
      else (.decimal negative (whole s) part (exponent.getD 0), rest)
  | _, _ => none

def number? : List Char → Option (Written × List Char)
  | '-' :: rest => unsigned? true rest
  | s => unsigned? false s

/-- What follows one of the three words. -/
def word? : List Char → Option (Written × List Char)
  | 'n' :: 'u' :: 'l' :: 'l' :: rest => some (.null, rest)
  | 't' :: 'r' :: 'u' :: 'e' :: rest => some (.bool true, rest)
  | 'f' :: 'a' :: 'l' :: 's' :: 'e' :: rest => some (.bool false, rest)
  | _ => none

mutual

/-- Reads one value. Each nested call uses one unit of fuel. -/
def value? : Nat → List Char → Option (Written × List Char)
  | 0, _ => none
  | fuel + 1, s =>
    match skipSpace s with
    | '"' :: rest => (stringTail [] none false rest).map fun (t, rest) => (.string t, rest)
    | '[' :: rest =>
      match skipSpace rest with
      | ']' :: rest => some (.array [], rest)
      | rest => items? fuel [] rest
    | '{' :: rest =>
      match skipSpace rest with
      | '}' :: rest => some (.object [], rest)
      | rest => members? fuel [] rest
    | c :: rest => if c = '-' ∨ c.isDigit then number? (c :: rest) else word? (c :: rest)
    | [] => none

/-- Reads the items of an array up to its end; `read` are those before, backwards. -/
def items? : Nat → List Written → List Char → Option (Written × List Char)
  | 0, _, _ => none
  | fuel + 1, read, s =>
    match value? fuel s with
    | none => none
    | some (v, rest) =>
      match skipSpace rest with
      | ',' :: rest => items? fuel (v :: read) rest
      | ']' :: rest => some (.array (v :: read).reverse, rest)
      | _ => none

def members? : Nat → List (Option String × Written) → List Char → Option (Written × List Char)
  | 0, _, _ => none
  | fuel + 1, read, s =>
    match skipSpace s with
    | '"' :: rest =>
      match stringTail [] none false rest with
      | none => none
      | some (name, rest) =>
        match skipSpace rest with
        | ':' :: rest =>
          match value? fuel rest with
          | none => none
          | some (v, rest) =>
            match skipSpace rest with
            | ',' :: rest => members? fuel ((name, v) :: read) rest
            | '}' :: rest => some (.object ((name, v) :: read).reverse, rest)
            | _ => none
        | _ => none
    | _ => none

end

/-- Reads a whole text. Every character pays for the calls that it can cause. -/
def ofText? (s : List Char) : Option Written :=
  match value? (2 * s.length + 2) s with
  | some (v, rest) => if (skipSpace rest).isEmpty then some v else none
  | none => none

/-- Reads digits into a word that stands at `n`, up to the first one that it cannot hold, and gives
back the digits from there on. -/
def intoWord (n : Nat) : List Char → Nat × List Char
  | [] => (n, [])
  | c :: rest =>
    let next := 10 * n + (Numeral.digitValue? c).getD 0
    if next < UInt64.size then intoWord next rest else (n, c :: rest)

/-- A word times a power of ten, rounded at each step and so not always to the nearest value. -/
def scaled (n : Nat) (exponent : Int) : Double :=
  let x := Double.ofNat n
  let power (k : Nat) := Double.ofNat (Nat.pow 10 k)
  let down := (-exponent).toNat
  if n = 0 then 0
  else if 308 < exponent then .infinite false
  else if 0 ≤ exponent then x * power exponent.toNat
  else if down ≤ 308 then x / power down
  else if down ≤ 616 then x / power 308 / power (down - 308)
  -- two quotients by the largest power make any word vanish
  else 0

/-- A number that is not whole, unless it is beyond the range. Only the digits that fit a word
count: further ones before the point are zeros, and those after it are dropped. -/
def real? (negative : Bool) (whole part : List Char) (exponent : Int) : Option Json :=
  let (n, zeros) := intoWord 0 whole
  let (n, dropped) := intoWord n part
  match scaled n (exponent + zeros.length - (part.length - dropped.length)) with
  | .finite _ m e => some (.real (.finite negative m e))
  | _ => none

/-- A whole number stays one between `-2 ^ 63` and `2 ^ 64`; minus zero is not whole. -/
def whole? (negative : Bool) (magnitude : Nat) : Option Json :=
  if negative then
    if magnitude = 0 ∨ 0x8000000000000000 < magnitude then
      real? true (Numeral.decimal magnitude) [] 0
    else some (.integer (-(magnitude : Int)))
  else if magnitude < 0x10000000000000000 then some (.integer magnitude)
  else real? false (Numeral.decimal magnitude) [] 0

mutual

/-- The value of a text that nests at most `depth` levels. -/
def toJson? (depth : Nat) : Written → Option Json
  | .null => some .null
  | .bool b => some (.bool b)
  | .integer negative n => whole? negative n
  | .decimal negative whole part exponent => real? negative whole part exponent
  | .string s => s.map .string
  | .array items =>
    if depth = 0 then none else (itemsToJson? (depth - 1) items).map .array
  | .object members =>
    if depth = 0 then none
    else (membersToJson? (depth - 1) members).map fun ms => .object (lastOfEach ms)

def itemsToJson? (depth : Nat) : List Written → Option (List Json)
  | [] => some []
  | v :: rest =>
    match toJson? depth v, itemsToJson? depth rest with
    | some v, some rest => some (v :: rest)
    | _, _ => none

def membersToJson? (depth : Nat) : List (Option String × Written) → Option (List (String × Json))
  | [] => some []
  | (name, v) :: rest =>
    match name, toJson? depth v, membersToJson? depth rest with
    | some name, some v, some rest => some ((name, v) :: rest)
    | _, _, _ => none

end

end Written

def maxDepth : Nat := 127

def ofText? (s : String) : Option Json :=
  (Written.ofText? s.toList).bind (Written.toJson? maxDepth)

end Courier.Json
