import Courier.Operation.Market
import Courier.Operation.Staking
import Courier.Operation.Token
import Courier.Proofs.Argument.List
import Courier.Proofs.Envelope

/-!
Operations are recovered from what is sent of them, the entry point and the arguments. Each family
has a reader that finds every field under the name of its argument; of a token only the number and
the text are found, which is all that the marketplace is told.
-/
namespace Courier

/-- A reader of entry points and entries finds the same where the same is sent. -/
theorem Operation.read_eq_of_sent_eq {α : Type}
    (read : String → List (String × ArgumentValue) → α) {name name' : String}
    {l l' : List (String × ArgumentValue)} (hl : (l.map Prod.fst).Nodup)
    (hl' : (l'.map Prod.fst).Nodup) (hname : name = name')
    (hjson : (Arguments.ofList l).toJson = (Arguments.ofList l').toJson) :
    read name l = read name' l' := by
  have hentries := Arguments.entriesOfJson?_toJson (.ofList l)
  rw [hjson, Arguments.entriesOfJson?_toJson, Arguments.entries_ofList hl,
    Arguments.entries_ofList hl'] at hentries
  rw [hname, Option.some.inj hentries]

namespace StakingCall

theorem names_nodup (c : StakingCall) : (c.entries.map Prod.fst).Nodup := by
  cases c <;> simp [entries]

def ofSent? : String → List (String × ArgumentValue) → Option StakingCall
  | "add_new_pool", [("alloc_point", .u64 allocPoint),
      ("lp_contract_hash", .key (.contract lpContract)),
      ("acc_reward_per_share", .u256 accRewardPerShare),
      ("min_stake_duration", .u256 minStakeDuration), ("penalty_rate", .u256 penaltyRate),
      ("last_reward_second", .u64 lastRewardSecond)] =>
    some (.addPool ⟨lpContract⟩ allocPoint accRewardPerShare minStakeDuration penaltyRate
      lastRewardSecond)
  | "stake", [("pool_id", .u64 poolId), ("amount", .u256 amount),
      ("stake_duration", .u256 duration)] => some (.stake poolId amount duration)
  | "un_stake", [("pool_id", .u64 poolId), ("amount", .u256 amount)] =>
    some (.unstake poolId amount)
  | "get_pending_rewards", [("pool_id", .u64 poolId), ("user", .key user)] =>
    some (.pendingRewards poolId user)
  | "set_support_token", [("nft_enabled", .bool enabled),
      ("nft_contract_hash", .key (.contract nftContract))] =>
    some (.setSupportToken ⟨nftContract⟩ enabled)
  | "transfer_owner", [("contract_owner", .key newOwner)] => some (.transferOwner newOwner)
  | "change_fee", [("market_fee", .u256 fee)] => some (.changeFee fee)
  | _, _ => none

theorem ofSent?_entries (c : StakingCall) : ofSent? c.entryPoint c.entries = some c := by
  cases c <;> rfl

theorem eq_of_sent_eq {a b : StakingCall} (hname : a.operation.entryPoint = b.operation.entryPoint)
    (hjson : a.operation.arguments.toJson = b.operation.arguments.toJson) : a = b := by
  have hread := Operation.read_eq_of_sent_eq ofSent? a.names_nodup b.names_nodup hname hjson
  have ha : ofSent? a.operation.entryPoint a.entries = some a := ofSent?_entries a
  have hb : ofSent? b.operation.entryPoint b.entries = some b := ofSent?_entries b
  rw [ha, hb] at hread
  exact Option.some.inj hread

end StakingCall

namespace TokenCall

theorem names_nodup (c : TokenCall) : (c.entries.map Prod.fst).Nodup := by
  cases c <;> simp [entries]

def ofSent? : String → List (String × ArgumentValue) → Option TokenCall
  | "transfer", [("recipient", .key recipient), ("amount", .u256 amount)] =>
    some (.transfer recipient amount)
  | "approve", [("spender", .key spender), ("amount", .u256 amount)] =>
    some (.approve spender amount)
  | "set_approval_for_all", [("operator", .key operator)] => some (.setApprovalForAll operator)
  | "burn", [("owner", .key owner), ("amount", .u256 amount)] => some (.burn owner amount)
  | "deposit", [("owner", .key owner), ("deposit_token", .key (.contract token)),
      ("amount", .u256 amount)] => some (.deposit owner ⟨token⟩ amount)
  | "redeem", [("owner", .key owner), ("redeem_token", .key (.contract token)),
      ("amount", .u256 amount)] => some (.redeem owner ⟨token⟩ amount)
  | "set_supported_token", [("supported_token", .key (.contract token)),
      ("enabled", .bool enabled)] => some (.setSupportedToken ⟨token⟩ enabled)
  | "set_supported_token_decimals", [("supported_token", .key (.contract token)),
      ("decimals", .u8 decimals)] => some (.setDecimals ⟨token⟩ decimals)
  | _, _ => none

theorem ofSent?_entries (c : TokenCall) : ofSent? c.entryPoint c.entries = some c := by
  cases c <;> rfl

theorem eq_of_sent_eq {a b : TokenCall} (hname : a.operation.entryPoint = b.operation.entryPoint)
    (hjson : a.operation.arguments.toJson = b.operation.arguments.toJson) : a = b := by
  have hread := Operation.read_eq_of_sent_eq ofSent? a.names_nodup b.names_nodup hname hjson
  have ha : ofSent? a.operation.entryPoint a.entries = some a := ofSent?_entries a
  have hb : ofSent? b.operation.entryPoint b.entries = some b := ofSent?_entries b
  rw [ha, hb] at hread
  exact Option.some.inj hread

end TokenCall

namespace TokenIdentifier

/-- The number and the text that an identifier is sent as. -/
def sent : TokenIdentifier → UInt64 × String
  | index id => (id, "")
  | hash text => (0, text)

theorem entries_eq (t : TokenIdentifier) :
    t.entries = [("token_id", .u64 t.sent.1), ("token_hash", .string t.sent.2)] := by
  cases t <;> rfl

/-- An identifier that is sent as this number and this text, if there is one. -/
def ofSent (id : UInt64) (text : String) : TokenIdentifier :=
  if text = "" then index id else hash text

theorem sent_ofSent (t : TokenIdentifier) : (ofSent t.sent.1 t.sent.2).sent = t.sent := by
  cases t with
  | index id => rfl
  | hash text =>
    by_cases h : text = ""
    · rw [h]
      rfl
    · simp [ofSent, sent, h]

end TokenIdentifier

namespace MarketCall

theorem names_nodup (c : MarketCall) : (c.entries.map Prod.fst).Nodup := by
  cases c <;> simp [entries, entries.nft, TokenIdentifier.entries_eq]

/-- The same call with the same fields, where a token counts as what it is sent as. -/
inductive Alike : MarketCall → MarketCall → Prop where
  | offer {nftContract token token' minimumOffer} (h : token.sent = token'.sent) :
      Alike (.offer nftContract token minimumOffer) (.offer nftContract token' minimumOffer)
  | changeOffer {nftContract token token' newMinimumOffer} (h : token.sent = token'.sent) :
      Alike (.changeOffer nftContract token newMinimumOffer)
        (.changeOffer nftContract token' newMinimumOffer)
  | bid {nftContract token token' biddingOffer} (h : token.sent = token'.sent) :
      Alike (.bid nftContract token biddingOffer) (.bid nftContract token' biddingOffer)
  | increaseBid {nftContract token token' newOffer} (h : token.sent = token'.sent) :
      Alike (.increaseBid nftContract token newOffer) (.increaseBid nftContract token' newOffer)
  | revokeOffer {nftContract token token'} (h : token.sent = token'.sent) :
      Alike (.revokeOffer nftContract token) (.revokeOffer nftContract token')
  | revokeBid {nftContract token token'} (h : token.sent = token'.sent) :
      Alike (.revokeBid nftContract token) (.revokeBid nftContract token')
  | changeFee {fee} : Alike (.changeFee fee) (.changeFee fee)
  | changeRoyaltyFee {fee} : Alike (.changeRoyaltyFee fee) (.changeRoyaltyFee fee)

def ofSent? : String → List (String × ArgumentValue) → Option MarketCall
  | "offer", [("nft_contract_hash", .key (.contract nft)), ("minimum_offer", .u256 minimumOffer),
      ("token_id", .u64 id), ("token_hash", .string text)] =>
    some (.offer ⟨nft⟩ (.ofSent id text) minimumOffer)
  | "change_offer", [("nft_contract_hash", .key (.contract nft)),
      ("new_minimum_offer", .u256 newMinimumOffer), ("token_id", .u64 id),
      ("token_hash", .string text)] =>
    some (.changeOffer ⟨nft⟩ (.ofSent id text) newMinimumOffer)
  | "bid", [("nft_contract_hash", .key (.contract nft)), ("bidding_offer", .u256 biddingOffer),
      ("token_id", .u64 id), ("token_hash", .string text)] =>
    some (.bid ⟨nft⟩ (.ofSent id text) biddingOffer)
  | "increase_bid", [("nft_contract_hash", .key (.contract nft)), ("new_offer", .u256 newOffer),
      ("token_id", .u64 id), ("token_hash", .string text)] =>
    some (.increaseBid ⟨nft⟩ (.ofSent id text) newOffer)
  | "revoke_offer", [("nft_contract_hash", .key (.contract nft)), ("token_id", .u64 id),
      ("token_hash", .string text)] => some (.revokeOffer ⟨nft⟩ (.ofSent id text))
  | "revoke_bid", [("nft_contract_hash", .key (.contract nft)), ("token_id", .u64 id),
      ("token_hash", .string text)] => some (.revokeBid ⟨nft⟩ (.ofSent id text))
  | "change_fee", [("market_fee", .u256 fee)] => some (.changeFee fee)
  | "change_royalty_fee", [("royalty_fee", .u256 fee)] => some (.changeRoyaltyFee fee)
  | _, _ => none

/-- What is read back is the call but for another way to identify the same token. -/
theorem exists_ofSent?_entries (c : MarketCall) :
    ∃ d, ofSent? c.entryPoint c.entries = some d ∧ Alike d c := by
  cases c with
  | offer nft token | changeOffer nft token | bid nft token | increaseBid nft token
  | revokeOffer nft token | revokeBid nft token =>
    simp only [entries, TokenIdentifier.entries_eq]
    exact ⟨_, rfl, by constructor; exact token.sent_ofSent⟩
  | changeFee fee => exact ⟨_, rfl, .changeFee⟩
  | changeRoyaltyFee fee => exact ⟨_, rfl, .changeRoyaltyFee⟩

theorem Alike.of_common {a b d : MarketCall} (ha : Alike d a) (hb : Alike d b) : Alike a b := by
  cases ha <;> cases hb <;> constructor <;> simp_all

theorem Alike.sent_eq {a b : MarketCall} (h : Alike a b) :
    a.entryPoint = b.entryPoint ∧ a.entries = b.entries := by
  cases h <;> simp_all [entryPoint, entries, TokenIdentifier.entries_eq]

theorem alike_of_sent_eq {a b : MarketCall}
    (hname : a.operation.entryPoint = b.operation.entryPoint)
    (hjson : a.operation.arguments.toJson = b.operation.arguments.toJson) : Alike a b := by
  have hread := Operation.read_eq_of_sent_eq ofSent? a.names_nodup b.names_nodup hname hjson
  obtain ⟨d, ha, hda⟩ := exists_ofSent?_entries a
  obtain ⟨d', hb, hdb⟩ := exists_ofSent?_entries b
  obtain rfl : d = d' := Option.some.inj (ha.symm.trans (hread.trans hb))
  exact hda.of_common hdb

end MarketCall

/-- What is sent of a call, its entry point and the JSON of its arguments, tells which call of its
family it is and all its fields; of a token it tells the number and the text. No entry of a call
is lost or replaced by a later one. -/
theorem Operation.sent_tells_call :
    (∀ a b : StakingCall, (a.operation.entryPoint = b.operation.entryPoint ∧
      a.operation.arguments.toJson = b.operation.arguments.toJson) ↔ a = b) ∧
    (∀ a b : TokenCall, (a.operation.entryPoint = b.operation.entryPoint ∧
      a.operation.arguments.toJson = b.operation.arguments.toJson) ↔ a = b) ∧
    (∀ a b : MarketCall, (a.operation.entryPoint = b.operation.entryPoint ∧
      a.operation.arguments.toJson = b.operation.arguments.toJson) ↔ a.Alike b) ∧
    (∀ c : StakingCall, c.operation.arguments.entries = c.entries) ∧
    (∀ c : TokenCall, c.operation.arguments.entries = c.entries) ∧
    ∀ c : MarketCall, c.operation.arguments.entries = c.entries := by
  refine ⟨fun a b => ⟨fun h => StakingCall.eq_of_sent_eq h.1 h.2, ?_⟩,
    fun a b => ⟨fun h => TokenCall.eq_of_sent_eq h.1 h.2, ?_⟩,
    fun a b => ⟨fun h => MarketCall.alike_of_sent_eq h.1 h.2, fun h => ?_⟩,
    fun c => Arguments.entries_ofList c.names_nodup,
    fun c => Arguments.entries_ofList c.names_nodup,
    fun c => Arguments.entries_ofList c.names_nodup⟩
  · rintro rfl
    exact ⟨rfl, rfl⟩
  · rintro rfl
    exact ⟨rfl, rfl⟩
  · obtain ⟨hname, hentries⟩ := h.sent_eq
    exact ⟨hname, congrArg (fun l => (Arguments.ofList l).toJson) hentries⟩

/-- A token with the number zero is sent like one with an empty hash. -/
example (nft : ContractHash) (minimumOffer : BitVec 256) :
    (MarketCall.offer nft (.index 0) minimumOffer).operation =
      (MarketCall.offer nft (.hash "") minimumOffer).operation := rfl

end Courier
