import Courier.Ip
import Courier.Url.Domain
import Courier.Url.Percent

/-!
Hosts of addresses: domain names, and internet addresses of 32 or 128 bits. A name whose last label
is a number is an address of 32 bits.
-/
namespace Courier.Url

inductive Error where
  | emptyHost
  | badDomain
  | badPort
  | badIpv4
  | badIpv6
  | badHostCharacter
  | noScheme
deriving DecidableEq, Repr

def Error.message : Error → String
  | emptyHost => "empty host"
  | badDomain => "invalid international domain name"
  | badPort => "invalid port number"
  | badIpv4 => "invalid IPv4 address"
  | badIpv6 => "invalid IPv6 address"
  | badHostCharacter => "invalid domain character"
  | noScheme => "relative URL without a base"

inductive Host where
  | name (text : List Char)
  | ipv4 (address : Nat)
  /-- Eight groups of 16 bits. -/
  | ipv6 (groups : List Nat)
deriving DecidableEq, Repr

/-- Reads a number that may be octal or hexadecimal. -/
def ipv4Number? (s : List Char) : Option Nat :=
  match s with
  | [] => none
  | ['0'] => some 0
  | '0' :: 'x' :: rest => if rest.isEmpty then some 0 else Numeral.accumulate? 16 0 rest
  | '0' :: 'X' :: rest => if rest.isEmpty then some 0 else Numeral.accumulate? 16 0 rest
  | '0' :: rest => Numeral.accumulate? 8 0 rest
  | s => Numeral.accumulate? 10 0 s

/-- The labels of a name, without the empty one after a last dot. -/
def labels (name : List Char) : List (List Char) :=
  let parts := Text.pieces '.' name
  if parts.getLast? = some [] then parts.dropLast else parts

/-- Whether a name is to be read as an address. -/
def endsInNumber (name : List Char) : Bool :=
  match (labels name).getLast? with
  | none => false
  | some last => (!last.isEmpty && last.all Char.isDigit) || (ipv4Number? last).isSome

/-- Up to three bytes, then a number that fills the bytes that are left. -/
def ipv4OfNumbers? (numbers : List Nat) : Option Nat :=
  let bytes := numbers.dropLast
  match numbers.getLast? with
  | none => none
  | some last =>
    if bytes.length ≤ 3 ∧ bytes.all (· ≤ 255) ∧ last < Nat.pow 256 (4 - bytes.length) then
      some (bytes.foldl (fun n b => 256 * n + b) 0 * Nat.pow 256 (4 - bytes.length) + last)
    else none

def ipv4? (name : List Char) : Option Nat := do
  ipv4OfNumbers? (← (labels name).mapM ipv4Number?)

def ipv4Bytes (n : Nat) : List Nat :=
  [n / 16777216 % 256, n / 65536 % 256, n / 256 % 256, n % 256]

namespace Host

def ofBrackets (s : List Char) : Except Error Host :=
  match s.getLast? with
  | some ']' => ((Ip.grouped? s.dropLast).map ipv6).elim (.error .badIpv6) .ok
  | _ => .error .badIpv6

/-- The host of an address with one of the schemes of the web. -/
def ofText (s : List Char) : Except Error Host :=
  match s with
  | '[' :: rest => ofBrackets rest
  | s =>
    match (Percent.decode? s).bind domainToAscii? with
    | none => .error .badDomain
    | some [] => .error .emptyHost
    | some domain =>
      if endsInNumber domain then ((ipv4? domain).map ipv4).elim (.error .badIpv4) .ok
      else .ok (name domain)

/-- The host of an address with any other scheme, which is not looked into. -/
def ofOpaqueText (s : List Char) : Except Error Host :=
  match s with
  | '[' :: rest => ofBrackets rest
  | s =>
    if s.any fun c => "\x00\t\n\r #/:<>?@[\\]^|".toList.contains c then .error .badHostCharacter
    else .ok (name (Percent.encode Percent.isControl s))

def toText : Host → List Char
  | name text => text
  | ipv4 address => Ip.dottedText (ipv4Bytes address)
  | ipv6 groups => '[' :: Ip.groupedText groups ++ [']']

end Host
end Courier.Url
