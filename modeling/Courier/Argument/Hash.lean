import Courier.Argument.Error
import Courier.Text.Cut

/-!
Hashes of 32 bytes: of contracts, and of accounts or contracts as ledger keys. A contract hash is
read with or without its beginning `hash-`; a key needs one of two beginnings.
-/
namespace Courier

structure Digest where
  bytes : List UInt8
  length_eq : bytes.length = 32
deriving DecidableEq, Repr

namespace Digest

def ofBytes (bytes : List UInt8) : Except ArgumentError Digest :=
  if h : bytes.length = 32 then .ok ⟨bytes, h⟩ else .error (.wrongLength bytes.length)

def ofText (s : List Char) : Except ArgumentError Digest :=
  match Hex.decode s with
  | .error cause => .error (.badHex cause)
  | .ok bytes => ofBytes bytes

def toHex (d : Digest) : List Char :=
  Hex.encode d.bytes

end Digest

def contractMark : List Char := "hash-".toList

def accountMark : List Char := "account-hash-".toList

structure ContractHash where
  digest : Digest
deriving DecidableEq, Repr

namespace ContractHash

/-- Reads a hash between blanks, with or without its beginning. -/
def ofText (s : String) : Except ArgumentError ContractHash :=
  let s := Text.trim s.toList
  (Digest.ofText ((Text.after? contractMark s).getD s)).map ContractHash.mk

/-- Lowercase digits without the beginning, as a node expects them in a call. -/
def toHex (h : ContractHash) : String :=
  String.ofList h.digest.toHex

def toText (h : ContractHash) : String :=
  String.ofList (contractMark ++ h.digest.toHex)

end ContractHash

inductive Key where
  | account (digest : Digest)
  | contract (digest : Digest)
deriving DecidableEq, Repr

namespace Key

def ofContract (h : ContractHash) : Key :=
  .contract h.digest

/-- Reads a key between blanks. The longer beginning is tried first. -/
def ofText (s : List Char) : Except ArgumentError Key :=
  let s := Text.trim s
  match Text.after? accountMark s with
  | some rest => (Digest.ofText rest).map account
  | none =>
    match Text.after? contractMark s with
    | some rest => (Digest.ofText rest).map contract
    | none => .error (.unknownKeyForm (String.ofList s))

def toText : Key → String
  | account d => String.ofList (accountMark ++ d.toHex)
  | contract d => String.ofList (contractMark ++ d.toHex)

end Key
end Courier
