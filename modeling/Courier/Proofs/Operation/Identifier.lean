import Courier.Proofs.Operation.Request
import Courier.Proofs.Operation.Sent

/-!
Tokens of the marketplace in the envelope. Calls on two tokens are sent alike for one pair of
identifiers only, the number zero and the empty hash: each fills the unused argument of the other
as it fills its own.
-/
namespace Courier

theorem TokenIdentifier.sent_eq_iff {t t' : TokenIdentifier} :
    t.sent = t'.sent ↔
      t = t' ∨ (t = .index 0 ∧ t' = .hash "") ∨ (t = .hash "" ∧ t' = .index 0) := by
  cases t with
  | index id =>
    cases t' with
    | index id' => simp [sent]
    | hash text => simp [sent, eq_comm]
  | hash text =>
    cases t' with
    | index id => simp [sent, eq_comm, and_comm]
    | hash text' => simp [sent]

/-- Requests of operations with the same envelope call the same with the same arguments. -/
theorem Operation.sent_eq_of_envelope_eq {op op' : Operation} {contract contract' : ContractHash}
    {payment? payment'? : Option UInt64} {s s' : DeploySettings} {chain chain' : String}
    (h : op.envelope contract payment? s chain = op'.envelope contract' payment'? s' chain') :
    op.entryPoint = op'.entryPoint ∧ op.arguments.toJson = op'.arguments.toJson := by
  have hread := op.ofJson?_envelope contract payment? s chain
  rw [h, ofJson?_envelope] at hread
  have hcontents := Option.some.inj hread
  simp only [Request.contents, request_eq, Envelope.mk.injEq, Session.call.injEq] at hcontents
  obtain ⟨-, ⟨-, hname⟩, hentries, -, -⟩ := hcontents
  exact ⟨hname.symm, congrArg Arguments.toJson (Arguments.eq_of_entries_eq hentries.symm)⟩

namespace MarketCall

/-- The token that a call is about. The fees are about none. -/
def token? : MarketCall → Option TokenIdentifier
  | offer _ token _ | changeOffer _ token _ | bid _ token _ | increaseBid _ token _
  | revokeOffer _ token | revokeBid _ token => some token
  | changeFee _ | changeRoyaltyFee _ => none

def withToken (t : TokenIdentifier) : MarketCall → MarketCall
  | offer nftContract _ minimumOffer => offer nftContract t minimumOffer
  | changeOffer nftContract _ newMinimumOffer => changeOffer nftContract t newMinimumOffer
  | bid nftContract _ biddingOffer => bid nftContract t biddingOffer
  | increaseBid nftContract _ newOffer => increaseBid nftContract t newOffer
  | revokeOffer nftContract _ => revokeOffer nftContract t
  | revokeBid nftContract _ => revokeBid nftContract t
  | changeFee fee => changeFee fee
  | changeRoyaltyFee fee => changeRoyaltyFee fee

theorem token?_withToken {c : MarketCall} (h : c.token?.isSome) (t : TokenIdentifier) :
    (c.withToken t).token? = some t := by
  cases c with
  | offer | changeOffer | bid | increaseBid | revokeOffer | revokeBid => rfl
  | changeFee | changeRoyaltyFee => cases h

theorem alike_withToken (c : MarketCall) {t t' : TokenIdentifier} (h : t.sent = t'.sent) :
    (c.withToken t).Alike (c.withToken t') := by
  cases c <;> constructor <;> exact h

theorem Alike.sent_token? {a b : MarketCall} (h : Alike a b) :
    a.token?.map TokenIdentifier.sent = b.token?.map TokenIdentifier.sent := by
  cases h with
  | offer h | changeOffer h | bid h | increaseBid h | revokeOffer h | revokeBid h =>
    exact congrArg some h
  | changeFee | changeRoyaltyFee => rfl

/-- Envelopes of market calls tell what is sent of the token, whatever else they are made of. -/
theorem sent_token?_of_envelope_eq {c c' : MarketCall} {contract contract' : ContractHash}
    {payment? payment'? : Option UInt64} {s s' : DeploySettings} {chain chain' : String}
    (h : c.operation.envelope contract payment? s chain =
      c'.operation.envelope contract' payment'? s' chain') :
    c.token?.map TokenIdentifier.sent = c'.token?.map TokenIdentifier.sent := by
  obtain ⟨hname, hjson⟩ := Operation.sent_eq_of_envelope_eq h
  exact (alike_of_sent_eq hname hjson).sent_token?

theorem envelope_withToken_eq_iff {c : MarketCall} (hc : c.token?.isSome)
    {t t' : TokenIdentifier} (contract : ContractHash) (payment? : Option UInt64)
    (s : DeploySettings) (chain : String) :
    (c.withToken t).operation.envelope contract payment? s chain =
      (c.withToken t').operation.envelope contract payment? s chain ↔ t.sent = t'.sent := by
  constructor
  · intro h
    have hsent := sent_token?_of_envelope_eq h
    rw [token?_withToken hc, token?_withToken hc] at hsent
    exact Option.some.inj hsent
  · intro h
    have hoperation : (c.withToken t).operation = (c.withToken t').operation := by
      obtain ⟨hname, hentries⟩ := (c.alike_withToken h).sent_eq
      have husual : (c.withToken t).usualUnits? = (c.withToken t').usualUnits? := by
        cases c <;> rfl
      simp only [operation, hname, hentries, husual]
    rw [hoperation]

/-- Calls that differ in the token alone have different envelopes for all identifiers but the
number zero and the empty hash. No envelope of a call about a token with a hash that is not empty
is the envelope of a call about a token with a number, whatever the calls, the contracts, the
payments, the settings and the chains. -/
theorem envelope_tells_token :
    (∀ (c : MarketCall) (t t' : TokenIdentifier), c.token?.isSome → t ≠ t' →
      ∀ (contract : ContractHash) (payment? : Option UInt64) (s : DeploySettings)
        (chain : String),
        (c.withToken t).operation.envelope contract payment? s chain =
            (c.withToken t').operation.envelope contract payment? s chain ↔
          (t = .index 0 ∧ t' = .hash "") ∨ (t = .hash "" ∧ t' = .index 0)) ∧
    ∀ (c c' : MarketCall) (id : UInt64) (text : String), c.token? = some (.index id) →
      c'.token? = some (.hash text) →
      ∀ (contract contract' : ContractHash) (payment? payment'? : Option UInt64)
        (s s' : DeploySettings) (chain chain' : String),
        c.operation.envelope contract payment? s chain =
            c'.operation.envelope contract' payment'? s' chain' →
          id = 0 ∧ text = "" := by
  constructor
  · intro c t t' hc hne contract payment? s chain
    rw [envelope_withToken_eq_iff hc, TokenIdentifier.sent_eq_iff, or_iff_right hne]
  · intro c c' id text hc hc' contract contract' payment? payment'? s s' chain chain' h
    have hsent := sent_token?_of_envelope_eq h
    rw [hc, hc'] at hsent
    obtain ⟨hid, htext⟩ := Prod.mk.inj (Option.some.inj hsent)
    exact ⟨hid, htext.symm⟩

/-- The number zero against a hash that is not empty, in two calls of the same kind. -/
theorem envelope_tells_token_zero :
    (revokeBid ⟨zeroDigest⟩ (.index 0)).operation.envelope ⟨zeroDigest⟩ none .default "casper" ≠
      (revokeBid ⟨zeroDigest⟩ (.hash "abc")).operation.envelope ⟨zeroDigest⟩ none .default
        "casper" ∧
    (revokeBid ⟨zeroDigest⟩ (.index 0)).operation.envelope ⟨zeroDigest⟩ (some 1) .default
        "casper" ≠
      (offer ⟨zeroDigest⟩ (.hash "0") 5).operation.envelope ⟨zeroDigest⟩ none .default
        "casper-test" := by
  obtain ⟨halone, hany⟩ := envelope_tells_token
  constructor
  · intro h
    have hpair := (halone (revokeBid ⟨zeroDigest⟩ (.index 0)) (.index 0) (.hash "abc") rfl
      (by decide) ⟨zeroDigest⟩ none .default "casper").1 h
    revert hpair
    decide
  · intro h
    have hzero := hany _ _ 0 "0" rfl rfl _ _ _ _ _ _ _ _ h
    revert hzero
    decide

/-- The number zero and the empty hash are different identifiers, and no envelope tells which of
them was meant. -/
theorem index_zero_sent_as_empty_hash :
    TokenIdentifier.index 0 ≠ .hash "" ∧
      (revokeBid ⟨zeroDigest⟩ (.index 0)).operation.envelope ⟨zeroDigest⟩ none .default
          "casper-test" =
        (revokeBid ⟨zeroDigest⟩ (.hash "")).operation.envelope ⟨zeroDigest⟩ none .default
          "casper-test" := by
  constructor
  · decide
  · rfl

end MarketCall
end Courier
