import Courier.CommandLine.Command
import Courier.Proofs.CommandLine.Fields

/-!
How contract calls are spelled on a command line: by the command of the call and a flag for every
field of it. A command line that asks for a call spells this call.
-/
namespace Courier

open CommandLine

namespace StakingCall

def command : StakingCall → String
  | addPool .. => "add-pool"
  | stake .. => "stake"
  | unstake .. => "unstake"
  | pendingRewards .. => "pending-rewards"
  | setSupportToken .. => "set-support-token"
  | transferOwner .. => "transfer-owner"
  | changeFee .. => "change-fee"

def fields : StakingCall → Fields
  | addPool lpContract allocPoint accRewardPerShare minStakeDuration penaltyRate
      lastRewardSecond =>
    [("lp-contract", .as Field.hash lpContract), ("alloc-point", .as Field.u64 allocPoint),
      ("acc-reward-per-share", .as Field.u256 accRewardPerShare),
      ("min-stake-duration", .as Field.u256 minStakeDuration),
      ("penalty-rate", .as Field.u256 penaltyRate),
      ("last-reward-second", .as Field.u64 lastRewardSecond)]
  | stake poolId amount duration =>
    [("pool-id", .as Field.u64 poolId), ("amount", .as Field.u256 amount),
      ("duration", .as Field.u256 duration)]
  | unstake poolId amount =>
    [("pool-id", .as Field.u64 poolId), ("amount", .as Field.u256 amount)]
  | pendingRewards poolId user =>
    [("pool-id", .as Field.u64 poolId), ("user", .as Field.key user)]
  | setSupportToken nftContract enabled =>
    [("nft-contract", .as Field.hash nftContract), ("enabled", .flag enabled)]
  | transferOwner newOwner => [("new-owner", .as Field.key newOwner)]
  | changeFee fee => [("fee", .as Field.u256 fee)]

end StakingCall

namespace TokenCall

def command : TokenCall → String
  | transfer .. => "transfer"
  | approve .. => "approve"
  | setApprovalForAll .. => "set-approval-for-all"
  | burn .. => "burn"
  | deposit .. => "deposit"
  | redeem .. => "redeem"
  | setSupportedToken .. => "set-supported-token"
  | setDecimals .. => "set-decimals"

def fields : TokenCall → Fields
  | transfer recipient amount =>
    [("recipient", .as Field.key recipient), ("amount", .as Field.u256 amount)]
  | approve spender amount =>
    [("spender", .as Field.key spender), ("amount", .as Field.u256 amount)]
  | setApprovalForAll operator => [("operator", .as Field.key operator)]
  | burn owner amount => [("owner", .as Field.key owner), ("amount", .as Field.u256 amount)]
  | deposit owner token amount =>
    [("owner", .as Field.key owner), ("token", .as Field.hash token),
      ("amount", .as Field.u256 amount)]
  | redeem owner token amount =>
    [("owner", .as Field.key owner), ("token", .as Field.hash token),
      ("amount", .as Field.u256 amount)]
  | setSupportedToken token enabled =>
    [("token", .as Field.hash token), ("enabled", .flag enabled)]
  | setDecimals token decimals =>
    [("token", .as Field.hash token), ("decimals", .as Field.u8 decimals)]

end TokenCall

/-- One of two options stands, and not the other. -/
def TokenIdentifier.fields : TokenIdentifier → Fields
  | index id => [("token-id", .as Field.u64 id), ("token-hash", .absent)]
  | hash text => [("token-id", .absent), ("token-hash", .as Field.text text)]

namespace MarketCall

def command : MarketCall → String
  | offer .. => "offer"
  | changeOffer .. => "change-offer"
  | bid .. => "bid"
  | increaseBid .. => "increase-bid"
  | revokeOffer .. => "revoke-offer"
  | revokeBid .. => "revoke-bid"
  | changeFee .. => "change-fee"
  | changeRoyaltyFee .. => "change-royalty-fee"

def fields : MarketCall → Fields
  | offer nftContract token minimumOffer =>
    onToken nftContract token ++ [("minimum-offer", .as Field.u256 minimumOffer)]
  | changeOffer nftContract token newMinimumOffer =>
    onToken nftContract token ++ [("new-minimum-offer", .as Field.u256 newMinimumOffer)]
  | bid nftContract token biddingOffer =>
    onToken nftContract token ++ [("offer", .as Field.u256 biddingOffer)]
  | increaseBid nftContract token newOffer =>
    onToken nftContract token ++ [("new-offer", .as Field.u256 newOffer)]
  | revokeOffer nftContract token => onToken nftContract token
  | revokeBid nftContract token => onToken nftContract token
  | changeFee fee => [("fee", .as Field.u256 fee)]
  | changeRoyaltyFee fee => [("fee", .as Field.u256 fee)]
where
  onToken (nftContract : ContractHash) (token : TokenIdentifier) : Fields :=
    ("nft-contract", .as Field.hash nftContract) :: token.fields

end MarketCall

namespace CommandLine

open Form

theorem read_tokenIdentifier {g : Given} (hnodup : (g.options.map Prod.fst).Nodup)
    {t : TokenIdentifier} : tokenIdentifier.read g = some t ↔ t.fields.SaidBy g.options := by
  simp only [tokenIdentifier, read_oneOf, read_map, read_optional hnodup]
  cases t <;> simp [TokenIdentifier.fields, Said.asAny]

@[simp] theorem rules_fields_token (t : TokenIdentifier) :
    t.fields.rules = tokenIdentifier.rules := by
  cases t <;> rfl

/-! Each entry of a menu reads one field after the other, so what is read is the call that the entry
makes, applied to what the options say. -/

theorem stakingMenu_spelled {name : String} {read : Reading StakingCall}
    (h : (name, read) ∈ stakingMenu) {args : List String} {c : StakingCall}
    (hread : read args = .ok c) : c.command = name ∧ c.fields.SpelledLast args := by
  simp only [stakingMenu, List.mem_cons, List.not_mem_nil, or_false, Prod.mk.injEq] at h
  rcases h with ⟨rfl, rfl⟩ | ⟨rfl, rfl⟩ | ⟨rfl, rfl⟩ | ⟨rfl, rfl⟩ | ⟨rfl, rfl⟩ | ⟨rfl, rfl⟩ |
    ⟨rfl, rfl⟩
  all_goals
    refine Spells.spelledLast ⟨rfl, by decide, fun g a hnodup => ?_⟩ hread
    simp only [read_seq, read_map, read_required hnodup, read_flag, amount,
      forall_exists_index, and_imp]
    intros
    subst_vars
    simp [StakingCall.command, StakingCall.fields, *]

theorem tokenMenu_spelled {name : String} {read : Reading TokenCall}
    (h : (name, read) ∈ tokenMenu) {args : List String} {c : TokenCall}
    (hread : read args = .ok c) : c.command = name ∧ c.fields.SpelledLast args := by
  simp only [tokenMenu, List.mem_cons, List.not_mem_nil, or_false, Prod.mk.injEq] at h
  rcases h with ⟨rfl, rfl⟩ | ⟨rfl, rfl⟩ | ⟨rfl, rfl⟩ | ⟨rfl, rfl⟩ | ⟨rfl, rfl⟩ | ⟨rfl, rfl⟩ |
    ⟨rfl, rfl⟩ | ⟨rfl, rfl⟩
  all_goals
    refine Spells.spelledLast ⟨rfl, by decide, fun g a hnodup => ?_⟩ hread
    simp only [read_seq, read_map, read_required hnodup, read_flag, amount,
      forall_exists_index, and_imp]
    intros
    subst_vars
    simp [TokenCall.command, TokenCall.fields, *]

theorem marketMenu_spelled {name : String} {read : Reading MarketCall}
    (h : (name, read) ∈ marketMenu) {args : List String} {c : MarketCall}
    (hread : read args = .ok c) : c.command = name ∧ c.fields.SpelledLast args := by
  simp only [marketMenu, List.mem_cons, List.not_mem_nil, or_false, Prod.mk.injEq] at h
  rcases h with ⟨rfl, rfl⟩ | ⟨rfl, rfl⟩ | ⟨rfl, rfl⟩ | ⟨rfl, rfl⟩ | ⟨rfl, rfl⟩ | ⟨rfl, rfl⟩ |
    ⟨rfl, rfl⟩ | ⟨rfl, rfl⟩
  all_goals
    refine Spells.spelledLast ⟨rfl, by decide, fun g a hnodup => ?_⟩ hread
    simp only [read_seq, read_map, read_required hnodup, read_tokenIdentifier hnodup, amount,
      onToken, forall_exists_index, and_imp]
    intros
    subst_vars
    simp [MarketCall.command, MarketCall.fields, MarketCall.fields.onToken, *]

namespace Target

def fields (t : Target) : Fields :=
  [("contract", .asAny Field.text t.contract?), ("payment", .asAny Field.u64 t.payment?),
    ("no-wait", .flag !t.waits)]

end Target

theorem read_target {g : Given} (hnodup : (g.options.map Prod.fst).Nodup) {t : Target}
    (h : target.read g = some t) : t.fields.SaidBy g.options := by
  revert t
  simp only [target, payment, waiting, read_seq, read_map, read_optional hnodup, read_flag,
    forall_exists_index, and_imp]
  intros
  subst_vars
  simp [Target.fields, *]

theorem rules_target (t : Target) : target.rules = t.fields.rules := by
  simp [target, payment, waiting, Target.fields]

namespace ContractCall

def command : ContractCall → String
  | staking call => call.command
  | token call => call.command
  | market call => call.command

def fields : ContractCall → Fields
  | staking call => call.fields
  | token call => call.fields
  | market call => call.fields

/-- Words that spell a call with its target, behind the command of the family. -/
def SpelledLast (made : ContractCall) (t : Target) (args : List String) : Prop :=
  ∃ options words, args = options ++ made.command :: words ∧ t.fields.SpelledBy options ∧
    made.fields.SpelledLast words

end ContractCall

theorem callReading_spelled {α : Type} {call : α → ContractCall}
    {menu : List (String × Reading α)}
    (hmenu : ∀ name read, (name, read) ∈ menu → ∀ words c, read words = .ok c →
      (call c).command = name ∧ (call c).fields.SpelledLast words)
    {args : List String} {t : Target} {made : ContractCall}
    (h : callReading call menu args = .ok (.call t made)) :
    (∃ c, call c = made) ∧ made.SpelledLast t args := by
  obtain ⟨⟨t', c⟩, hover, hmade⟩ := Except.map_eq_ok_iff.1 h
  cases hmade
  obtain ⟨g, level, name, read, rest, hwritten, hnodup, hread, hmem, hrest, rfl⟩ :=
    over_eq_ok rfl (by decide) hover
  obtain ⟨rfl, hspelled⟩ := hmenu name read hmem rest c hrest
  rw [rules_target t] at hwritten
  exact ⟨⟨c, rfl⟩, level, rest, rfl, ⟨g.options, hwritten, hnodup, read_target hnodup hread⟩,
    hspelled⟩

theorem commandMenu_spelled {name : String} {read : Reading Command}
    (h : (name, read) ∈ commandMenu) {args : List String} {t : Target} {made : ContractCall}
    (hread : read args = .ok (.call t made)) : made.family = name ∧ made.SpelledLast t args := by
  simp only [commandMenu, List.mem_cons, List.not_mem_nil, or_false, Prod.mk.injEq] at h
  rcases h with ⟨rfl, rfl⟩ | ⟨rfl, rfl⟩ | ⟨rfl, rfl⟩ | ⟨rfl, rfl⟩ | ⟨rfl, rfl⟩ | ⟨rfl, rfl⟩ |
    ⟨rfl, rfl⟩
  case inr.inr.inl =>
    obtain ⟨⟨c, rfl⟩, hspelled⟩ :=
      callReading_spelled (fun _ _ h _ _ => stakingMenu_spelled h) hread
    exact ⟨rfl, hspelled⟩
  case inr.inr.inr.inl =>
    obtain ⟨⟨c, rfl⟩, hspelled⟩ :=
      callReading_spelled (fun _ _ h _ _ => tokenMenu_spelled h) hread
    exact ⟨rfl, hspelled⟩
  case inr.inr.inr.inr.inl =>
    obtain ⟨⟨c, rfl⟩, hspelled⟩ :=
      callReading_spelled (fun _ _ h _ _ => marketMenu_spelled h) hread
    exact ⟨rfl, hspelled⟩
  case inr.inr.inr.inr.inr.inr =>
    obtain ⟨_, -, hquery⟩ := Except.map_eq_ok_iff.1 hread
    cases hquery
  all_goals
    obtain ⟨g, -, -, hvalue⟩ := reading_eq_ok hread
    simp [read_seq, read_map, just] at hvalue

/-- A command line that asks for a call spells it, with its target, below the options of every
command. -/
theorem Invocation.spelled {args : List String} {i : Invocation} {t : Target}
    {made : ContractCall} (h : ofArguments args = .ok i) (hcall : i.command = .call t made) :
    ∃ before given rest, args = before ++ made.family :: rest ∧
      Written common.rules before given ∧ made.SpelledLast t rest := by
  obtain ⟨⟨⟨config?, logLevel?⟩, command⟩, hover, rfl⟩ := Except.map_eq_ok_iff.1 h
  obtain ⟨g, before, name, read, rest, hwritten, -, -, hmem, hread, rfl⟩ :=
    over_eq_ok rfl (by decide) hover
  obtain rfl : command = .call t made := hcall
  obtain ⟨rfl, hspelled⟩ := commandMenu_spelled hmem hread
  exact ⟨before, g.options, rest, rfl, hwritten, hspelled⟩

end CommandLine
end Courier
