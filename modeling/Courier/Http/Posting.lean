import Courier.Json.Printer
import Courier.Node.Basic

/-!
Requests to a node as they go over a connection. Each one is alone on its connection and carries a
call of a method as its body.
-/
namespace Courier

/-! Bytes in an alphabet of 64 characters, three bytes to four characters. -/
namespace Base64

def digit (n : Nat) : Char :=
  if n < 26 then Char.ofNat (65 + n)
  else if n < 52 then Char.ofNat (71 + n)
  else if n < 62 then Char.ofNat (n - 4)
  else if n = 62 then '+'
  else '/'

/-- The character for six bits of a number, counted from `place` times six. -/
def digitAt (n place : Nat) : Char :=
  digit (n / Nat.pow 64 place % 64)

/-- Bytes that are missing at the end show as equals signs. -/
def encode : List UInt8 → List Char
  | [] => []
  | [a] =>
    let n := a.toNat * 65536
    [digitAt n 3, digitAt n 2, '=', '=']
  | [a, b] =>
    let n := a.toNat * 65536 + b.toNat * 256
    [digitAt n 3, digitAt n 2, digitAt n 1, '=']
  | a :: b :: c :: rest =>
    let n := a.toNat * 65536 + b.toNat * 256 + c.toNat
    digitAt n 3 :: digitAt n 2 :: digitAt n 1 :: digitAt n 0 :: encode rest

end Base64

namespace Http

/-- Characters, each of which stands for one byte. -/
abbrev Octets : Type := List Char

def bytesOf (s : Octets) : List UInt8 :=
  s.map fun c => UInt8.ofNat c.toNat

def callBody (p : Node.Post) (id : String) : Json :=
  .object [
    ("jsonrpc", .string "2.0"),
    ("id", .string id),
    ("method", .string p.method),
    ("params", p.params)]

/-- A name or password without its percent signs. -/
def plainOf (encoded : List Char) : List Char :=
  (Url.Percent.decode? encoded).getD []

def credentials? (a : Url.Authority) : Option String :=
  if a.hasCredentials then
    let pair := String.ofList (plainOf a.username ++ ':' :: plainOf a.password)
    some ("Authorization: Basic " ++ String.ofList (Base64.encode pair.toUTF8.toList))
  else none

def target (u : Url) : String :=
  let path := u.path.toText
  String.ofList ((if path.isEmpty then ['/'] else path) ++ u.query.elim [] ('?' :: ·))

def hostText (u : Url) : String :=
  u.authority.elim "" fun a =>
    String.ofList (Url.Authority.toText { a with username := [], password := [] })

def postText (u : Url) (body : String) : String :=
  let headers := [
    "POST " ++ target u ++ " HTTP/1.1",
    "Host: " ++ hostText u,
    "Accept: */*",
    "Content-Type: application/json",
    "Content-Length: " ++ toString body.utf8ByteSize,
    "Connection: close"] ++ (u.authority.bind credentials?).toList
  "\r\n".intercalate headers ++ "\r\n\r\n" ++ body

end Http
end Courier
