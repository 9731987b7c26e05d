import Courier.Argument.Named
import Courier.CommandLine.Form
import Courier.Numeral
import Courier.Operation.Market
import Courier.Operation.Staking
import Courier.Operation.Token
import Courier.Receipt

/-!
The commands of the command line and how they are written: contract calls by family, confirmations,
installations, and reads of contract state.
-/
namespace Courier.CommandLine

/-! What the text of an option may be. -/
namespace Field

def text : String → Option String := some

/-- The path of a file, which is not empty. -/
def path (s : String) : Option String :=
  if s.isEmpty then none else some s

def u8 (s : String) : Option UInt8 :=
  (Numeral.wordBelow? UInt8.size s.toList).map UInt8.ofNat

def u32 (s : String) : Option UInt32 :=
  (Numeral.wordBelow? UInt32.size s.toList).map UInt32.ofNat

def u64 (s : String) : Option UInt64 :=
  (Numeral.unsignedBits? 64 s.toList).map UInt64.ofNat

def u256 (s : String) : Option (BitVec 256) :=
  (Numeral.wide? 256 s.toList).map (BitVec.ofNat 256)

def hash (s : String) : Option ContractHash :=
  (ContractHash.ofText s).toOption

def key (s : String) : Option Key :=
  (Key.ofText s.toList).toOption

def argument (s : String) : Option NamedArgument :=
  (NamedArgument.ofText s).toOption

end Field

inductive ContractCall where
  | staking (call : StakingCall)
  | token (call : TokenCall)
  | market (call : MarketCall)
deriving DecidableEq, Repr

namespace ContractCall

/-- The name under which the settings list the contract. -/
def family : ContractCall → String
  | staking _ => "staking"
  | token _ => "token"
  | market _ => "market"

def operation : ContractCall → Operation
  | staking call => call.operation
  | token call => call.operation
  | market call => call.operation

end ContractCall

/-- Options of every contract call. -/
structure Target where
  /-- The name of a contract in the settings, or its hash. -/
  contract? : Option String
  payment? : Option UInt64
  /-- Whether the outcome is waited for. -/
  waits : Bool
deriving DecidableEq, Repr

inductive StateItem where
  | namedKey (name : String)
  | dictionary (dictionary key : String)
deriving DecidableEq, Repr

inductive Command where
  | status
  /-- The interval between polls is given in milliseconds. -/
  | confirm (receipts : List Receipt) (maxPolls? : Option UInt32) (pollIntervalMs? : Option UInt64)
  | call (target : Target) (call : ContractCall)
  | install (wasm : String) (arguments : List NamedArgument) (payment? : Option UInt64)
      (waits : Bool)
  | query (contract : String) (item : StateItem)
deriving DecidableEq, Repr

/-- A command with the options that stand before it. -/
structure Invocation where
  config? : Option String
  logLevel? : Option String
  command : Command
deriving DecidableEq, Repr

/-! The forms of the commands. -/

open Form

/-- Waiting is given up by a flag. -/
def waiting : Form Bool :=
  (!·) <$> flag "no-wait"

def payment : Form (Option UInt64) :=
  optional "payment" Field.u64

def target : Form Target :=
  Target.mk <$> optional "contract" Field.text <*> payment <*> waiting

def tokenIdentifier : Form TokenIdentifier :=
  oneOf (Option.map .index <$> optional "token-id" Field.u64)
    (Option.map .hash <$> optional "token-hash" Field.text)

def amount (name : String) : Form (BitVec 256) :=
  required name Field.u256

def stakingMenu : List (String × Reading StakingCall) := [
  ("add-pool", reading (StakingCall.addPool <$> required "lp-contract" Field.hash <*>
    required "alloc-point" Field.u64 <*> amount "acc-reward-per-share" <*>
    amount "min-stake-duration" <*> amount "penalty-rate" <*>
    required "last-reward-second" Field.u64)),
  ("stake", reading (StakingCall.stake <$> required "pool-id" Field.u64 <*> amount "amount" <*>
    amount "duration")),
  ("unstake", reading (StakingCall.unstake <$> required "pool-id" Field.u64 <*> amount "amount")),
  ("pending-rewards", reading (StakingCall.pendingRewards <$> required "pool-id" Field.u64 <*>
    required "user" Field.key)),
  ("set-support-token", reading (StakingCall.setSupportToken <$>
    required "nft-contract" Field.hash <*> flag "enabled")),
  ("transfer-owner", reading (StakingCall.transferOwner <$> required "new-owner" Field.key)),
  ("change-fee", reading (StakingCall.changeFee <$> amount "fee"))]

def tokenMenu : List (String × Reading TokenCall) := [
  ("transfer", reading (TokenCall.transfer <$> required "recipient" Field.key <*>
    amount "amount")),
  ("approve", reading (TokenCall.approve <$> required "spender" Field.key <*> amount "amount")),
  ("set-approval-for-all", reading (TokenCall.setApprovalForAll <$>
    required "operator" Field.key)),
  ("burn", reading (TokenCall.burn <$> required "owner" Field.key <*> amount "amount")),
  ("deposit", reading (TokenCall.deposit <$> required "owner" Field.key <*>
    required "token" Field.hash <*> amount "amount")),
  ("redeem", reading (TokenCall.redeem <$> required "owner" Field.key <*>
    required "token" Field.hash <*> amount "amount")),
  ("set-supported-token", reading (TokenCall.setSupportedToken <$>
    required "token" Field.hash <*> flag "enabled")),
  ("set-decimals", reading (TokenCall.setDecimals <$> required "token" Field.hash <*>
    required "decimals" Field.u8))]

def onToken : Form (ContractHash × TokenIdentifier) :=
  Prod.mk <$> required "nft-contract" Field.hash <*> tokenIdentifier

def marketMenu : List (String × Reading MarketCall) := [
  ("offer", reading ((fun t => MarketCall.offer t.1 t.2) <$> onToken <*>
    amount "minimum-offer")),
  ("change-offer", reading ((fun t => MarketCall.changeOffer t.1 t.2) <$> onToken <*>
    amount "new-minimum-offer")),
  ("bid", reading ((fun t => MarketCall.bid t.1 t.2) <$> onToken <*> amount "offer")),
  ("increase-bid", reading ((fun t => MarketCall.increaseBid t.1 t.2) <$> onToken <*>
    amount "new-offer")),
  ("revoke-offer", reading ((fun t => MarketCall.revokeOffer t.1 t.2) <$> onToken)),
  ("revoke-bid", reading ((fun t => MarketCall.revokeBid t.1 t.2) <$> onToken)),
  ("change-fee", reading (MarketCall.changeFee <$> amount "fee")),
  ("change-royalty-fee", reading (MarketCall.changeRoyaltyFee <$> amount "fee"))]

def stateMenu : List (String × Reading StateItem) := [
  ("named-key", reading (StateItem.namedKey <$> required "name" Field.text)),
  ("dictionary", reading (StateItem.dictionary <$> required "dictionary" Field.text <*>
    required "key" Field.text))]

/-- The calls of a family under the options of every call. -/
def callReading {α : Type} (call : α → ContractCall) (menu : List (String × Reading α)) :
    Reading Command := fun args =>
  (target.over menu args).map fun (t, c) => .call t (call c)

def commandMenu : List (String × Reading Command) := [
  ("status", reading (just .status)),
  ("confirm", reading (Command.confirm <$> (List.map Receipt.mk <$> words) <*>
    optional "max-polls" Field.u32 <*> optional "poll-interval-ms" Field.u64)),
  ("staking", callReading .staking stakingMenu),
  ("token", callReading .token tokenMenu),
  ("market", callReading .market marketMenu),
  ("install", reading (Command.install <$> required "wasm" Field.path <*>
    repeated "arg" Field.argument <*> payment <*> waiting)),
  ("query", fun args => ((required "contract" Field.text).over stateMenu args).map
    fun (contract, item) => .query contract item)]

def common : Form (Option String × Option String) :=
  Prod.mk <$> withLetter 'c' (optional "config" Field.path) <*>
    optional "log-level" Field.text

namespace Invocation

def ofArguments : Reading Invocation := fun args =>
  (common.over commandMenu args).map fun ((config?, logLevel?), command) =>
    ⟨config?, logLevel?, command⟩

end Invocation
end Courier.CommandLine
