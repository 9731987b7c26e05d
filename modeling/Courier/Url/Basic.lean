import Courier.Url.Host

/-! Addresses of resources, in their parts, and their text. -/
namespace Courier

/-- How the scheme of an address shapes the rest. -/
inductive Url.SchemeKind where
  | file
  /-- A scheme of the web and its usual port. -/
  | web (port : Nat)
  | other
deriving DecidableEq, Repr

def Url.SchemeKind.ofScheme (scheme : String) : SchemeKind :=
  if scheme = "http" ∨ scheme = "ws" then .web 80
  else if scheme = "https" ∨ scheme = "wss" then .web 443
  else if scheme = "ftp" then .web 21
  else if scheme = "file" then .file
  else .other

/-- Whether backslashes count as slashes. -/
def Url.SchemeKind.isSpecial (k : SchemeKind) : Bool :=
  k != .other

/-- Who is asked: the part between two slashes and the path. -/
structure Url.Authority where
  username : List Char
  password : List Char
  host : Host
  /-- A port that is not the usual one. -/
  port : Option Nat
deriving DecidableEq, Repr

inductive Url.Path where
  /-- A path that is not divided. -/
  | plain (text : List Char)
  /-- Each segment stands behind a slash. -/
  | segments (list : List (List Char))
deriving DecidableEq, Repr

structure Url where
  scheme : String
  authority : Option Url.Authority
  path : Url.Path
  query : Option (List Char)
  fragment : Option (List Char)
deriving DecidableEq, Repr

namespace Url

def Authority.userinfoText (a : Authority) : List Char :=
  if a.username.isEmpty ∧ a.password.isEmpty then []
  else a.username ++ (if a.password.isEmpty then [] else ':' :: a.password) ++ ['@']

def Authority.toText (a : Authority) : List Char :=
  a.userinfoText ++ a.host.toText ++ (a.port.elim [] fun n => ':' :: Numeral.decimal n)

def Path.toText : Path → List Char
  | plain text => text
  | segments list => list.flatMap ('/' :: ·)

/-- What stands between the scheme and the path. Without an authority, a path must not look as if
it had one. -/
def authorityText (u : Url) : List Char :=
  match u.authority, u.path with
  | some a, _ => '/' :: '/' :: a.toText
  | none, .segments ([] :: _ :: _) => ['/', '.']
  | none, _ => []

def toText (u : Url) : String :=
  u.scheme ++ String.ofList (':' :: u.authorityText ++ u.path.toText ++
    (u.query.elim [] ('?' :: ·)) ++ (u.fragment.elim [] ('#' :: ·)))

/-- Whether name and password can be told from the address: the name must be text, and one of them
must be there as text. -/
def Authority.hasCredentials (a : Authority) : Bool :=
  match Percent.decode? a.username with
  | none => false
  | some name => !name.isEmpty || (!a.password.isEmpty && (Percent.decode? a.password).isSome)

/-- The address without name and password, which travel apart from it. -/
def withoutCredentials (u : Url) : Url :=
  { u with authority := u.authority.map fun a =>
      if a.hasCredentials then { a with username := [], password := [] } else a }

def isHttp (u : Url) : Bool :=
  u.scheme == "http" || u.scheme == "https"

/-- Whether a request can be sent to the address: its host holds no mark that a request line
refuses, and it is not too long. -/
def canBeAsked (u : Url) : Bool :=
  u.isHttp &&
    !(u.authority.any fun a => a.host.toText.any fun c => "\"`\x7b\x7d".toList.contains c) &&
    u.toText.utf8ByteSize ≤ 65534

end Url
end Courier
