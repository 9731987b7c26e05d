import Courier.Operation.Basic

/-!
Operations of a marketplace contract. Its entry points take a token by number and by text at once;
the one that is not used is sent as zero or as the empty text.
-/
namespace Courier

inductive TokenIdentifier where
  | index (id : UInt64)
  | hash (text : String)
deriving DecidableEq, Repr

/-- The two arguments that every identifier fills. -/
def TokenIdentifier.entries : TokenIdentifier → List (String × ArgumentValue)
  | index id => [("token_id", .u64 id), ("token_hash", .string "")]
  | hash text => [("token_id", .u64 0), ("token_hash", .string text)]

inductive MarketCall where
  | offer (nftContract : ContractHash) (token : TokenIdentifier) (minimumOffer : BitVec 256)
  | changeOffer (nftContract : ContractHash) (token : TokenIdentifier)
      (newMinimumOffer : BitVec 256)
  | bid (nftContract : ContractHash) (token : TokenIdentifier) (offer : BitVec 256)
  | increaseBid (nftContract : ContractHash) (token : TokenIdentifier) (newOffer : BitVec 256)
  | revokeOffer (nftContract : ContractHash) (token : TokenIdentifier)
  | revokeBid (nftContract : ContractHash) (token : TokenIdentifier)
  | changeFee (fee : BitVec 256)
  | changeRoyaltyFee (fee : BitVec 256)
deriving DecidableEq, Repr

namespace MarketCall

def entryPoint : MarketCall → String
  | offer .. => "offer"
  | changeOffer .. => "change_offer"
  | bid .. => "bid"
  | increaseBid .. => "increase_bid"
  | revokeOffer .. => "revoke_offer"
  | revokeBid .. => "revoke_bid"
  | changeFee .. => "change_fee"
  | changeRoyaltyFee .. => "change_royalty_fee"

/-- The token contract comes first, then the amount, then the token. -/
def entries : MarketCall → List (String × ArgumentValue)
  | offer nftContract token minimumOffer =>
    nft nftContract :: ("minimum_offer", .u256 minimumOffer) :: token.entries
  | changeOffer nftContract token newMinimumOffer =>
    nft nftContract :: ("new_minimum_offer", .u256 newMinimumOffer) :: token.entries
  | bid nftContract token biddingOffer =>
    nft nftContract :: ("bidding_offer", .u256 biddingOffer) :: token.entries
  | increaseBid nftContract token newOffer =>
    nft nftContract :: ("new_offer", .u256 newOffer) :: token.entries
  | revokeOffer nftContract token => nft nftContract :: token.entries
  | revokeBid nftContract token => nft nftContract :: token.entries
  | changeFee fee => [("market_fee", .u256 fee)]
  | changeRoyaltyFee fee => [("royalty_fee", .u256 fee)]
where
  nft (contract : ContractHash) : String × ArgumentValue :=
    ("nft_contract_hash", .key (.ofContract contract))

/-- The usual payment in units of the currency; only the fees have one. -/
def usualUnits? : MarketCall → Option UInt64
  | changeFee .. => some 1
  | changeRoyaltyFee .. => some 1
  | _ => none

def operation (c : MarketCall) : Operation where
  entryPoint := c.entryPoint
  arguments := .ofList c.entries
  usualPayment := c.usualUnits?.map (· * Operation.motesPerUnit)

end MarketCall

end Courier
