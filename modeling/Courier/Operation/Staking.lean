import Courier.Operation.Basic

/-! Operations of a staking contract. -/
namespace Courier

inductive StakingCall where
  | addPool (lpContract : ContractHash) (allocPoint : UInt64) (accRewardPerShare : BitVec 256)
      (minStakeDuration : BitVec 256) (penaltyRate : BitVec 256) (lastRewardSecond : UInt64)
  | stake (poolId : UInt64) (amount : BitVec 256) (duration : BitVec 256)
  | unstake (poolId : UInt64) (amount : BitVec 256)
  | pendingRewards (poolId : UInt64) (user : Key)
  | setSupportToken (nftContract : ContractHash) (enabled : Bool)
  | transferOwner (newOwner : Key)
  | changeFee (fee : BitVec 256)
deriving DecidableEq, Repr

namespace StakingCall

def entryPoint : StakingCall → String
  | addPool .. => "add_new_pool"
  | stake .. => "stake"
  | unstake .. => "un_stake"
  | pendingRewards .. => "get_pending_rewards"
  | setSupportToken .. => "set_support_token"
  | transferOwner .. => "transfer_owner"
  | changeFee .. => "change_fee"

def entries : StakingCall → List (String × ArgumentValue)
  | addPool lpContract allocPoint accRewardPerShare minStakeDuration penaltyRate
      lastRewardSecond =>
    [("alloc_point", .u64 allocPoint),
      ("lp_contract_hash", .key (.ofContract lpContract)),
      ("acc_reward_per_share", .u256 accRewardPerShare),
      ("min_stake_duration", .u256 minStakeDuration),
      ("penalty_rate", .u256 penaltyRate),
      ("last_reward_second", .u64 lastRewardSecond)]
  | stake poolId amount duration =>
    [("pool_id", .u64 poolId), ("amount", .u256 amount), ("stake_duration", .u256 duration)]
  | unstake poolId amount => [("pool_id", .u64 poolId), ("amount", .u256 amount)]
  | pendingRewards poolId user => [("pool_id", .u64 poolId), ("user", .key user)]
  | setSupportToken nftContract enabled =>
    [("nft_enabled", .bool enabled), ("nft_contract_hash", .key (.ofContract nftContract))]
  | transferOwner newOwner => [("contract_owner", .key newOwner)]
  | changeFee fee => [("market_fee", .u256 fee)]

def usualUnits : StakingCall → UInt64
  | addPool .. => 10
  | stake .. => 50
  | unstake .. => 100
  | pendingRewards .. => 50
  | setSupportToken .. => 1
  | transferOwner .. => 1
  | changeFee .. => 1

def operation (c : StakingCall) : Operation where
  entryPoint := c.entryPoint
  arguments := .ofList c.entries
  usualPayment := some (c.usualUnits * Operation.motesPerUnit)

end StakingCall
end Courier
