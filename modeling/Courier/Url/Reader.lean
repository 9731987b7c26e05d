import Courier.Text.Cut
import Courier.Url.Basic

/-!
Reading addresses the way browsers do: controls and blanks around the text and line ends inside it
are dropped, the scheme decides how slashes count, and dots in the path are resolved.
-/
namespace Courier.Url

/-- Letters, digits and three marks. -/
def isSchemeChar (c : Char) : Bool :=
  c.isAlphanum || c == '+' || c == '-' || c == '.'

/-- The scheme in small letters, and what follows its colon. -/
def scheme? (s : List Char) : Option (String × List Char) :=
  match s with
  | [] => none
  | c :: _ =>
    if c.isAlpha then
      match s.dropWhile isSchemeChar with
      | ':' :: rest =>
        some (String.ofList ((s.takeWhile isSchemeChar).map Text.lowerAscii), rest)
      | _ => none
    else none

/-- Characters that end the part before the path. -/
def endsAuthority (special : Bool) (c : Char) : Bool :=
  c == '/' || c == '?' || c == '#' || (special && c == '\\')

def cutAtLast (sep : Char) (s : List Char) : Option (List Char × List Char) :=
  (Text.cutAt sep s.reverse).map fun (a, b) => (b.reverse, a.reverse)

/-- The host text, up to a port or the end; colons in brackets belong to the host. -/
def spanHost (inBrackets : Bool) : List Char → List Char × List Char
  | [] => ([], [])
  | c :: rest =>
    if c = ':' ∧ !inBrackets then ([], c :: rest)
    else
      let inBrackets := if c = '[' then true else if c = ']' then false else inBrackets
      let (host, rest) := spanHost inBrackets rest
      (c :: host, rest)

/-- A port below `2 ^ 16`, or none. -/
def port? (s : List Char) : Option (Option Nat) :=
  if s.isEmpty then some none
  else ((Numeral.digits? s).filter (· < UInt16.size)).map some

/-- The host with its port. For the schemes of the web it may not be empty. -/
def hostAndPort (kind : SchemeKind) (s : List Char) : Except Error (Host × Option Nat) := do
  let (text, rest) := spanHost false s
  if text.isEmpty ∧ (kind.isSpecial ∨ rest.head? = some ':') then throw .emptyHost
  let host ← if kind.isSpecial then Host.ofText text else Host.ofOpaqueText text
  match port? rest.tail with
  | none => throw .badPort
  | some port => return (host, if kind = .web (port.getD 0) then none else port)

def readAuthority (kind : SchemeKind) (s : List Char) : Except Error Authority := do
  match cutAtLast '@' s with
  | none =>
    let (host, port) ← hostAndPort kind s
    return ⟨[], [], host, port⟩
  | some (userinfo, rest) =>
    let (username, password) := (Text.cutAt ':' userinfo).getD (userinfo, [])
    let (host, port) ← hostAndPort kind rest
    if host = .name [] ∧ !(username.isEmpty && password.isEmpty) then throw .emptyHost
    return ⟨Percent.encode Percent.inUserinfo username,
      Percent.encode Percent.inUserinfo password, host, port⟩

/-- A letter and a colon or bar. -/
def isDriveLetter (segment : List Char) : Bool :=
  match segment with
  | [a, b] => a.isAlpha && (b == ':' || b == '|')
  | _ => false

def isSingleDot (segment : List Char) : Bool :=
  [".", "%2e"].contains (String.ofList (segment.map Text.lowerAscii))

def isDoubleDot (segment : List Char) : Bool :=
  ["..", ".%2e", "%2e.", "%2e%2e"].contains (String.ofList (segment.map Text.lowerAscii))

/-- The path above one that is given backwards. A drive letter of a file stays. -/
def shorten (file : Bool) : List (List Char) → List (List Char)
  | [] => []
  | [segment] => if file ∧ isDriveLetter segment then [segment] else []
  | _ :: above => above

/-- Resolves the dots in a path. `above` are the segments before, backwards. -/
def resolve (file : Bool) (above : List (List Char)) : List (List Char) → List (List Char)
  | [] => above.reverse
  | segment :: rest =>
    if isDoubleDot segment then
      let above := shorten file above
      resolve file (if rest.isEmpty then [] :: above else above) rest
    else if isSingleDot segment then
      resolve file (if rest.isEmpty then [] :: above else above) rest
    else if file ∧ above.isEmpty ∧ isDriveLetter segment then
      resolve file [segment.take 1 ++ [':']] rest
    else resolve file (segment :: above) rest

def segmentsOf (kind : SchemeKind) (s : List Char) : List (List Char) :=
  let slashes := if kind.isSpecial then s.map fun c => if c = '\\' then '/' else c else s
  resolve (kind == .file) [] ((Text.pieces '/' slashes).map (Percent.encode Percent.inPath))

def queryAndFragment (kind : SchemeKind) (s : List Char) : Option (List Char) × Option (List Char) :=
  let (before, fragment) := match Text.cutAt '#' s with
    | some (before, fragment) => (before, some fragment)
    | none => (s, none)
  let inQuery := if kind.isSpecial then Percent.inSpecialQuery else Percent.inQuery
  let query := match before with
    | '?' :: query => some (Percent.encode inQuery query)
    | _ => none
  (query, fragment.map (Percent.encode Percent.inFragment))

def endsPath (c : Char) : Bool :=
  c == '?' || c == '#'

def assemble (scheme : String) (kind : SchemeKind) (authority : Option Authority)
    (path : List Char → Path) (s : List Char) : Url :=
  let (query, fragment) := queryAndFragment kind (s.dropWhile fun c => !endsPath c)
  { scheme := scheme
    authority := authority
    path := path (s.takeWhile fun c => !endsPath c)
    query := query
    fragment := fragment }

def afterSlashes (scheme : String) (kind : SchemeKind) (s : List Char) : Except Error Url := do
  let special := kind.isSpecial
  let rest := s.dropWhile fun c => !endsAuthority special c
  let authority ← readAuthority kind (s.takeWhile fun c => !endsAuthority special c)
  if authority.host = .name [] ∧ s.head? = some '@' ∧ !rest.isEmpty then throw .emptyHost
  let path (text : List Char) : Path :=
    match text with
    | [] => if special then .segments [[]] else .segments []
    | _ :: rest => .segments (segmentsOf kind rest)
  return assemble scheme kind (some authority) path rest

def Authority.nobody : Authority :=
  ⟨[], [], .name [], none⟩

/-- The path of a file, which starts with one slash. -/
def filePath (s : List Char) : Path :=
  match (segmentsOf .file s).dropWhile List.isEmpty with
  | [] => .segments [[]]
  | list => .segments list

def startsWithDrive (s : List Char) : Bool :=
  isDriveLetter (s.takeWhile fun c => !endsAuthority true c)

def isSlash (c : Char) : Bool :=
  c == '/' || c == '\\'

/-- Reads a file's address after its scheme. A host gives way to a drive letter. -/
def readFile (s : List Char) : Except Error Url := do
  let here (s : List Char) : Url := assemble "file" .file (some .nobody) filePath s
  match s with
  | a :: b :: rest =>
    if isSlash a ∧ isSlash b then
      let text := rest.takeWhile fun c => !endsAuthority true c
      if isDriveLetter text then return here rest
      let after := rest.dropWhile fun c => !endsAuthority true c
      let host ← if text.isEmpty then pure (.name []) else Host.ofText text
      let host := if host = .name "localhost".toList ∨ startsWithDrive after.tail then .name []
        else host
      return assemble "file" .file (some { Authority.nobody with host := host })
        (fun path => filePath path.tail) after
    else return here (if isSlash a then b :: rest else s)
  | [a] => return here (if isSlash a then [] else s)
  | [] => return here []

def afterScheme (scheme : String) (s : List Char) : Except Error Url :=
  match SchemeKind.ofScheme scheme with
  | .file => readFile s
  | .web port => afterSlashes scheme (.web port) (s.dropWhile isSlash)
  | .other =>
    match s with
    | '/' :: '/' :: rest => afterSlashes scheme .other rest
    | '/' :: _ => .ok (assemble scheme .other none (fun p => .segments (segmentsOf .other p.tail)) s)
    | s => .ok (assemble scheme .other none (fun p => .plain (Percent.encode Percent.isControl p)) s)

def ofText (s : String) : Except Error Url :=
  let trimmed := Text.stripEnds (fun c => c.toNat ≤ 0x20) s.toList
  let s := trimmed.filter fun c => c != '\t' && c != '\n' && c != '\r'
  match scheme? s with
  | none => .error .noScheme
  | some (scheme, rest) => afterScheme scheme rest

end Courier.Url
