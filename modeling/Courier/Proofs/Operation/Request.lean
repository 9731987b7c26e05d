import Courier.CommandLine.Command
import Courier.Proofs.Argument.HashForms
import Courier.Proofs.Config.Validation
import Courier.Proofs.Envelope

/-!
The budget of an operation and its time to live, from the caller and the settings to the envelope.
Settings that keep the rules never lead to a payment of zero by themselves, since no usual payment
is zero either.
-/
namespace Courier

theorem DeploySettings.milliseconds_ttl (s : DeploySettings) : s.ttl.milliseconds = s.ttlMs.toNat :=
  Duration.milliseconds_ofMilliseconds s.ttlMs

theorem DeploySettings.ttl_fits (s : DeploySettings) : s.ttl.milliseconds < 2 ^ 64 := by
  rw [s.milliseconds_ttl]
  exact s.ttlMs.toNat_lt

namespace Operation

def envelope (op : Operation) (contract : ContractHash) (payment? : Option UInt64)
    (s : DeploySettings) (chain : String) : Json :=
  (op.request contract payment? s).envelope chain

/-- The payment that an operation is to have, from the three places that may name one. -/
inductive Budget (op : Operation) (s : DeploySettings) : Option UInt64 → UInt64 → Prop where
  | named (motes : UInt64) : Budget op s (some motes) motes
  | usual {motes : UInt64} (h : op.usualPayment = some motes) : Budget op s none motes
  | configured (h : op.usualPayment = none) : Budget op s none s.paymentAmount

variable {op : Operation} {s : DeploySettings} {payment? : Option UInt64} {motes : UInt64}

theorem request_eq (op : Operation) (contract : ContractHash) (payment? : Option UInt64)
    (s : DeploySettings) :
    op.request contract payment? s = ⟨.call contract op.entryPoint, op.arguments,
      (payment?.or op.usualPayment).getD s.paymentAmount, s.ttl⟩ := by
  unfold request
  cases payment?.or op.usualPayment <;> rfl

theorem budget_iff (contract : ContractHash) :
    op.Budget s payment? motes ↔ (op.request contract payment? s).payment = motes := by
  rw [request_eq]
  constructor
  · intro h
    cases h with
    | named => rfl
    | usual h => simp [h]
    | configured h => simp [h]
  · intro h
    subst h
    cases payment? with
    | some motes => exact .named motes
    | none =>
      cases husual : op.usualPayment with
      | some motes => exact .usual husual
      | none => exact .configured husual

theorem Budget.pos (h : op.Budget s none motes)
    (husual : ∀ motes, op.usualPayment = some motes → 0 < motes) (hs : 0 < s.paymentAmount) :
    0 < motes := by
  cases h with
  | usual h => exact husual motes h
  | configured => exact hs

theorem get_payment_envelope (contract : ContractHash) (chain : String)
    (h : op.Budget s payment? motes) :
    (op.envelope contract payment? s chain).get "payment" =
      .string (ArgumentValue.decimalText motes.toNat) := by
  rw [← (budget_iff contract).1 h]
  rfl

theorem ttl_request (op : Operation) (contract : ContractHash) (payment? : Option UInt64)
    (s : DeploySettings) : (op.request contract payment? s).ttl = s.ttl := by
  rw [request_eq]

theorem get_ttl_envelope (op : Operation) (contract : ContractHash) (payment? : Option UInt64)
    (s : DeploySettings) (chain : String) :
    (op.envelope contract payment? s chain).get "ttl_ms" = .nat s.ttlMs.toNat := by
  have hget : (op.envelope contract payment? s chain).get "ttl_ms" =
    .nat (op.request contract payment? s).ttl.wireMilliseconds.toNat := rfl
  rw [hget, ttl_request, Duration.toNat_wireMilliseconds s.ttl_fits, s.milliseconds_ttl]

/-- The envelope of an operation is read back whatever the settings are. -/
theorem ofJson?_envelope (op : Operation) (contract : ContractHash) (payment? : Option UInt64)
    (s : DeploySettings) (chain : String) :
    Envelope.ofJson? (op.envelope contract payment? s chain) =
      some ((op.request contract payment? s).contents chain) := by
  have hfits : (op.request contract payment? s).ttl.milliseconds < 2 ^ 64 := by
    rw [ttl_request]
    exact s.ttl_fits
  exact Envelope.ofJson?_envelope hfits chain

end Operation

theorem StakingCall.usualUnits_mul_pos (c : StakingCall) :
    0 < c.usualUnits * Operation.motesPerUnit := by
  cases c <;> simp only [usualUnits] <;> decide

theorem TokenCall.usualUnits_mul_pos (c : TokenCall) :
    0 < c.usualUnits * Operation.motesPerUnit := by
  cases c <;> simp only [usualUnits] <;> decide

namespace CommandLine.ContractCall

theorem usualPayment_pos (call : ContractCall) {motes : UInt64}
    (h : call.operation.usualPayment = some motes) : 0 < motes := by
  cases call with
  | staking call =>
    obtain rfl := Option.some.inj h
    exact call.usualUnits_mul_pos
  | token call =>
    obtain rfl := Option.some.inj h
    exact call.usualUnits_mul_pos
  | market call =>
    cases call with
    | changeFee fee | changeRoyaltyFee fee =>
      obtain rfl := Option.some.inj h
      decide
    | offer | changeOffer | bid | increaseBid | revokeOffer | revokeBid => cases h

/-- With settings that keep the rules, the envelope of every call of the three families carries the
payment that the caller names, else the usual one of the call, else the one of the settings, and it
is zero only where the caller names zero. It carries the time to live of the settings to the
millisecond, and that is never zero. -/
theorem envelope_budget {c : Config} (hc : c.problems = []) (call : ContractCall)
    (contract : ContractHash) (payment? : Option UInt64) (chain : String) :
    (∃ motes, call.operation.Budget c.deploy payment? motes ∧
      (call.operation.envelope contract payment? c.deploy chain).get "payment" =
        .string (ArgumentValue.decimalText motes.toNat) ∧
      (payment? = none → 0 < motes)) ∧
    (call.operation.envelope contract payment? c.deploy chain).get "ttl_ms" =
      .nat c.deploy.ttlMs.toNat ∧
    0 < c.deploy.ttlMs := by
  have hvalid := Config.problems_eq_nil_iff.1 hc
  have hbudget : call.operation.Budget c.deploy payment?
    (call.operation.request contract payment? c.deploy).payment :=
      (Operation.budget_iff contract).2 rfl
  refine ⟨⟨_, hbudget, Operation.get_payment_envelope contract chain hbudget, ?_⟩,
    Operation.get_ttl_envelope call.operation contract payment? c.deploy chain,
    UInt64.pos_iff_ne_zero.2 hvalid.ttlMs⟩
  intro hnone
  subst hnone
  exact hbudget.pos (fun _ => call.usualPayment_pos)
    (UInt64.pos_iff_ne_zero.2 hvalid.paymentAmount)

/-- Settings with a payment of one mote and the longest time to live. -/
def thrifty : Config :=
  { Config.default with deploy := ⟨1, 18446744073709551615⟩ }

/-- An offer has no usual payment, so that the settings decide. -/
theorem envelope_budget_thrifty :
    thrifty.problems = [] ∧
      ((ContractCall.market (.offer ⟨zeroDigest⟩ (.index 7) 5)).operation.envelope ⟨zeroDigest⟩
        none thrifty.deploy "casper-test").get "payment" = .string "1" ∧
      ((ContractCall.market (.offer ⟨zeroDigest⟩ (.index 7) 5)).operation.envelope ⟨zeroDigest⟩
        none thrifty.deploy "casper-test").get "ttl_ms" = .nat 18446744073709551615 := by
  have hc : thrifty.problems = [] := by decide +kernel
  obtain ⟨⟨motes, hbudget, hpayment, -⟩, httl, -⟩ := envelope_budget hc
    (.market (.offer ⟨zeroDigest⟩ (.index 7) 5)) ⟨zeroDigest⟩ none "casper-test"
  refine ⟨hc, ?_, httl⟩
  cases hbudget with
  | usual h => cases h
  | configured => exact hpayment

end CommandLine.ContractCall
end Courier
