import Courier.Argument.Hash
import Courier.Json.Basic
import Courier.Numeral

/-!
Typed argument values. A node receives each as its type and its readable form; numbers wider than
64 bits are readable as decimal text.
-/
namespace Courier

inductive ArgumentValue where
  | bool (v : Bool)
  | u8 (v : UInt8)
  | u32 (v : UInt32)
  | u64 (v : UInt64)
  | u128 (v : BitVec 128)
  | u256 (v : BitVec 256)
  | u512 (v : BitVec 512)
  | string (v : String)
  | key (v : Key)
  | bytes (v : List UInt8)
deriving DecidableEq, Repr

namespace ArgumentValue

/-- The type in the notation of a node. Byte strings carry their length. -/
def typeTag : ArgumentValue → Json
  | bool _ => .string "Bool"
  | u8 _ => .string "U8"
  | u32 _ => .string "U32"
  | u64 _ => .string "U64"
  | u128 _ => .string "U128"
  | u256 _ => .string "U256"
  | u512 _ => .string "U512"
  | string _ => .string "String"
  | key _ => .string "Key"
  | bytes v => .object [("ByteArray", .nat v.length)]

def decimalText (n : Nat) : String :=
  String.ofList (Numeral.decimal n)

def readable : ArgumentValue → Json
  | bool v => .bool v
  | u8 v => .nat v.toNat
  | u32 v => .nat v.toNat
  | u64 v => .nat v.toNat
  | u128 v => .string (decimalText v.toNat)
  | u256 v => .string (decimalText v.toNat)
  | u512 v => .string (decimalText v.toNat)
  | string v => .string v
  | key v => .string v.toText
  | bytes v => .string (String.ofList (Hex.encode v))

/-- Type and readable form together. -/
def toJson (v : ArgumentValue) : Json :=
  .object [("cl_type", v.typeTag), ("parsed", v.readable)]

def typeWord : ArgumentValue → String
  | bool _ => "bool"
  | u8 _ => "u8"
  | u32 _ => "u32"
  | u64 _ => "u64"
  | u128 _ => "u128"
  | u256 _ => "u256"
  | u512 _ => "u512"
  | string _ => "string"
  | key _ => "key"
  | bytes _ => "bytes"

def toText : ArgumentValue → String
  | bool v => if v then "true" else "false"
  | u8 v => decimalText v.toNat
  | u32 v => decimalText v.toNat
  | u64 v => decimalText v.toNat
  | u128 v => decimalText v.toNat
  | u256 v => decimalText v.toNat
  | u512 v => decimalText v.toNat
  | string v => v
  | key v => v.toText
  | bytes v => String.ofList (Hex.encode v)

def bool? (s : List Char) : Option Bool :=
  if s = "true".toList then some true
  else if s = "false".toList then some false
  else none

/-- Reads a value of the type that `word` names; the word is in lower case. The hexadecimal text
of a byte string may start with any number of `0x`. Nothing when no type has this name. -/
def ofText? (word : String) (written : String) (s : List Char) :
    Option (Except ArgumentError ArgumentValue) :=
  let orBad (v : Option ArgumentValue) : Option (Except ArgumentError ArgumentValue) :=
    some (v.elim (.error (.badValue written (String.ofList s))) .ok)
  match word with
  | "bool" => orBad ((bool? s).map bool)
  | "u8" => orBad ((Numeral.unsignedBits? 8 s).map fun n => u8 (UInt8.ofNat n))
  | "u32" => orBad ((Numeral.unsignedBits? 32 s).map fun n => u32 (UInt32.ofNat n))
  | "u64" => orBad ((Numeral.unsignedBits? 64 s).map fun n => u64 (UInt64.ofNat n))
  | "u128" => orBad ((Numeral.unsignedBits? 128 s).map fun n => u128 (BitVec.ofNat 128 n))
  | "u256" => orBad ((Numeral.wide? 256 s).map fun n => u256 (BitVec.ofNat 256 n))
  | "u512" => orBad ((Numeral.wide? 512 s).map fun n => u512 (BitVec.ofNat 512 n))
  | "string" => some (.ok (string (String.ofList s)))
  | "key" => some ((Key.ofText s).map key)
  | "bytes" =>
    match Hex.decode (Text.dropPairs '0' 'x' s) with
    | .ok v => some (.ok (bytes v))
    | .error cause => some (.error (.badHex cause))
  | _ => none

end ArgumentValue
end Courier
