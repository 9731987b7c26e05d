import Courier.Proofs.Argument.Value
import Courier.Proofs.Duration
import Courier.Request

/-!
Envelopes are read back: chain, session, arguments, payment and time to live. So requests with the
same envelope ask for the same.
-/
namespace Courier

def Json.natBelow? (bits : Nat) (v : Json) : Option Nat :=
  v.nat?.filter (· < 2 ^ bits)

def Json.decimal? (bits : Nat) (v : Json) : Option Nat :=
  v.text?.bind fun s => Numeral.unsignedBits? bits s.toList

def Json.bytes? (v : Json) : Option (List UInt8) :=
  v.text?.bind fun s => (Hex.decode s.toList).toOption

/-- A value from its tag and its readable form. The tag of a byte string must fit its length. -/
def ArgumentValue.ofJson? (v : Json) : Option ArgumentValue :=
  let readable := v.get "parsed"
  match v.get "cl_type" with
  | .string "Bool" => readable.bool?.map bool
  | .string "U8" => (readable.natBelow? 8).map fun n => u8 (UInt8.ofNat n)
  | .string "U32" => (readable.natBelow? 32).map fun n => u32 (UInt32.ofNat n)
  | .string "U64" => (readable.natBelow? 64).map fun n => u64 (UInt64.ofNat n)
  | .string "U128" => (readable.decimal? 128).map fun n => u128 (BitVec.ofNat 128 n)
  | .string "U256" => (readable.decimal? 256).map fun n => u256 (BitVec.ofNat 256 n)
  | .string "U512" => (readable.decimal? 512).map fun n => u512 (BitVec.ofNat 512 n)
  | .string "String" => readable.text?.map string
  | .string "Key" => readable.text?.bind fun s => (Key.ofText s.toList).toOption.map key
  | tag => do
    let length ← (tag.get "ByteArray").nat?
    let v ← readable.bytes?
    if v.length = length then some (bytes v) else none

def Arguments.entryOfJson? : Json → Option (String × ArgumentValue)
  | .array [.string name, value] => (ArgumentValue.ofJson? value).map (name, ·)
  | _ => none

def Arguments.entriesOfJson? (v : Json) : Option (List (String × ArgumentValue)) :=
  v.items?.bind fun items => items.mapM entryOfJson?

/-- A session of one of the two kinds, and what it says about its arguments. -/
def Session.ofJson? (v : Json) : Option (Session × Json) :=
  match v.member? "StoredContractByHash", v.member? "ModuleBytes" with
  | some target, none => do
    let digest ← (target.get "hash").text?.bind fun s => (Digest.ofText s.toList).toOption
    let entryPoint ← (target.get "entry_point").text?
    some (.call ⟨digest⟩ entryPoint, target.get "args")
  | none, some code => do
    let module ← (code.get "module_bytes").bytes?
    some (.install module, code.get "args")
  | _, _ => none

structure Envelope where
  chain : String
  session : Session
  /-- Names and values in their order. -/
  arguments : List (String × ArgumentValue)
  payment : UInt64
  ttlMilliseconds : Nat
deriving DecidableEq

def Envelope.ofJson? (v : Json) : Option Envelope := do
  let chain ← (v.get "chain_name").text?
  let ttl ← (v.get "ttl_ms").natBelow? 64
  let payment ← (v.get "payment").decimal? 64
  let (session, arguments) ← Session.ofJson? (v.get "session")
  let entries ← Arguments.entriesOfJson? arguments
  some ⟨chain, session, entries, UInt64.ofNat payment, ttl⟩

def Request.contents (r : Request) (chain : String) : Envelope :=
  ⟨chain, r.session, r.arguments.entries, r.payment, r.ttl.milliseconds⟩

theorem Json.natBelow?_nat {bits n : Nat} (h : n < 2 ^ bits) :
    (Json.nat n).natBelow? bits = some n :=
  Option.filter_some_pos (by simpa using h)

theorem Json.decimal?_decimalText {bits n : Nat} (h : n < 2 ^ bits) :
    (Json.string (ArgumentValue.decimalText n)).decimal? bits = some n := by
  simp [decimal?, text?, ArgumentValue.decimalText, Numeral.unsignedBits?_decimal h]

theorem Json.decimal?_toNat {w : Nat} (v : BitVec w) :
    (Json.string (ArgumentValue.decimalText v.toNat)).decimal? w = some v.toNat :=
  decimal?_decimalText v.isLt

theorem Json.bytes?_encode (bytes : List UInt8) :
    (Json.string (String.ofList (Hex.encode bytes))).bytes? = some bytes := by
  simp [bytes?, text?, Hex.decode_encode, Except.toOption]

theorem ArgumentValue.ofJson?_toJson (v : ArgumentValue) : ofJson? v.toJson = some v := by
  have hget : v.toJson.get "cl_type" = v.typeTag ∧ v.toJson.get "parsed" = v.readable := ⟨rfl, rfl⟩
  unfold ofJson?
  rw [hget.1, hget.2]
  cases v with
  | bool v => rfl
  | u8 v | u32 v | u64 v => simp [typeTag, readable, Json.natBelow?_nat v.toNat_lt]
  | u128 v | u256 v | u512 v => simp [typeTag, readable, Json.decimal?_toNat v]
  | string v => rfl
  | key v => simp [typeTag, readable, Json.text?, Key.ofText_toText, Except.toOption]
  | bytes v =>
    simp [typeTag, readable, Json.get, Json.member?, Json.nat, Json.nat?, Json.bytes?_encode]

theorem Arguments.eq_of_entries_eq {a b : Arguments} (h : a.entries = b.entries) : a = b := by
  cases a
  cases b
  cases h
  rfl

theorem Arguments.entriesOfJson?_toJson (a : Arguments) :
    entriesOfJson? a.toJson = some a.entries := by
  have hentries (l : List (String × ArgumentValue)) :
      (l.map fun e => Json.array [.string e.1, e.2.toJson]).mapM entryOfJson? = some l := by
    induction l with
    | nil => rfl
    | cons e rest ih =>
      simp [entryOfJson?, ArgumentValue.ofJson?_toJson, ih]
  exact hentries a.entries

theorem Session.ofJson?_sessionJson (r : Request) :
    ofJson? r.sessionJson = some (r.session, r.arguments.toJson) := by
  obtain ⟨session, arguments, payment, ttl⟩ := r
  cases session with
  | call contract entryPoint =>
    simp [ofJson?, Request.sessionJson, Json.member?, Json.get, Json.text?, ContractHash.toHex,
      Digest.ofText_toHex, Except.toOption]
  | install module =>
    simp [ofJson?, Request.sessionJson, Json.member?, Json.get, Json.bytes?_encode]

/-- The envelope of a request whose time to live fits the wire is read back. -/
theorem Envelope.ofJson?_envelope {r : Request} (h : r.ttl.milliseconds < 2 ^ 64)
    (chain : String) : ofJson? (r.envelope chain) = some (r.contents chain) := by
  have hchain : (r.envelope chain).get "chain_name" = .string chain := rfl
  have httl : (r.envelope chain).get "ttl_ms" = .nat r.ttl.milliseconds :=
    congrArg Json.nat (Duration.toNat_wireMilliseconds h)
  have hpayment : (r.envelope chain).get "payment" =
    .string (ArgumentValue.decimalText r.payment.toNat) := rfl
  have hsession : (r.envelope chain).get "session" = r.sessionJson := rfl
  unfold ofJson?
  rw [hchain, httl, hpayment, hsession, Session.ofJson?_sessionJson, Json.natBelow?_nat h,
    Json.decimal?_decimalText r.payment.toNat_lt]
  simp [Json.text?, Arguments.entriesOfJson?_toJson, Request.contents]

/-- Nothing that a request says is lost in its envelope: one reader finds the chain, the session,
every argument with its name, type and value in their order, the payment, and the time to live in
whole milliseconds. Equal envelopes come from requests that agree in all of it. -/
theorem Request.envelope_lossless :
    (∀ (r : Request) (chain : String), r.ttl.milliseconds < 2 ^ 64 →
      Envelope.ofJson? (r.envelope chain) =
        some ⟨chain, r.session, r.arguments.entries, r.payment, r.ttl.milliseconds⟩) ∧
    ∀ (r r' : Request) (chain chain' : String), r.ttl.milliseconds < 2 ^ 64 →
      r'.ttl.milliseconds < 2 ^ 64 → r.envelope chain = r'.envelope chain' →
      chain = chain' ∧ r.session = r'.session ∧ r.arguments = r'.arguments ∧
        r.payment = r'.payment ∧ r.ttl.milliseconds = r'.ttl.milliseconds := by
  constructor
  · intro r chain h
    exact Envelope.ofJson?_envelope h chain
  · intro r r' chain chain' h h' henvelope
    have hread := Envelope.ofJson?_envelope h chain
    rw [henvelope, Envelope.ofJson?_envelope h' chain'] at hread
    have hcontents : r'.contents chain' = r.contents chain := Option.some.inj hread
    obtain ⟨hchain, hsession, hentries, hpayment, httl⟩ := Envelope.mk.inj hcontents
    exact ⟨hchain.symm, hsession.symm, Arguments.eq_of_entries_eq hentries.symm, hpayment.symm,
      httl.symm⟩

namespace Request

def sampleInstall (ttl : Duration) : Request where
  session := .install [0, 0x61, 0x73, 0x6d]
  arguments := Arguments.ofList [("amount", .u512 1000000000), ("salt", .bytes [0xab, 0xcd])]
  payment := 7
  ttl := ttl

/-- A time to live one nanosecond short of `2 ^ 64` milliseconds. -/
def longestTtl : Duration :=
  ⟨18446744073709551615999999, by decide⟩

/-- The longest time to live that fits, and two that differ below the millisecond only. -/
theorem envelope_lossless_sampleInstall :
    longestTtl.milliseconds < 2 ^ 64 ∧
      Envelope.ofJson? ((sampleInstall longestTtl).envelope "casper-test") =
        some ⟨"casper-test", .install [0, 0x61, 0x73, 0x6d],
          [("amount", .u512 1000000000), ("salt", .bytes [0xab, 0xcd])], 7,
          18446744073709551615⟩ ∧
      (sampleInstall ⟨1000000, by decide⟩).envelope "casper-test" =
        (sampleInstall ⟨1999999, by decide⟩).envelope "casper-test" ∧
      (sampleInstall ⟨1000000, by decide⟩).arguments =
        (sampleInstall ⟨1999999, by decide⟩).arguments := by
  obtain ⟨hread, hagree⟩ := Request.envelope_lossless
  have hequal : (sampleInstall ⟨1000000, by decide⟩).envelope "casper-test" =
      (sampleInstall ⟨1999999, by decide⟩).envelope "casper-test" := rfl
  refine ⟨by decide, hread _ _ (by decide), hequal, ?_⟩
  exact (hagree _ _ _ _ (by decide) (by decide) hequal).2.2.1

end Request
end Courier
