import Courier.Operation.Basic

/-! Operations of a fungible token contract. -/
namespace Courier

inductive TokenCall where
  | transfer (recipient : Key) (amount : BitVec 256)
  | approve (spender : Key) (amount : BitVec 256)
  /-- Lets the operator move every token of the caller. -/
  | setApprovalForAll (operator : Key)
  | burn (owner : Key) (amount : BitVec 256)
  | deposit (owner : Key) (token : ContractHash) (amount : BitVec 256)
  | redeem (owner : Key) (token : ContractHash) (amount : BitVec 256)
  | setSupportedToken (token : ContractHash) (enabled : Bool)
  | setDecimals (token : ContractHash) (decimals : UInt8)
deriving DecidableEq, Repr

namespace TokenCall

def entryPoint : TokenCall → String
  | transfer .. => "transfer"
  | approve .. => "approve"
  | setApprovalForAll .. => "set_approval_for_all"
  | burn .. => "burn"
  | deposit .. => "deposit"
  | redeem .. => "redeem"
  | setSupportedToken .. => "set_supported_token"
  | setDecimals .. => "set_supported_token_decimals"

def entries : TokenCall → List (String × ArgumentValue)
  | transfer recipient amount => [("recipient", .key recipient), ("amount", .u256 amount)]
  | approve spender amount => [("spender", .key spender), ("amount", .u256 amount)]
  | setApprovalForAll operator => [("operator", .key operator)]
  | burn owner amount => [("owner", .key owner), ("amount", .u256 amount)]
  | deposit owner token amount =>
    [("owner", .key owner), ("deposit_token", .key (.ofContract token)), ("amount", .u256 amount)]
  | redeem owner token amount =>
    [("owner", .key owner), ("redeem_token", .key (.ofContract token)), ("amount", .u256 amount)]
  | setSupportedToken token enabled =>
    [("supported_token", .key (.ofContract token)), ("enabled", .bool enabled)]
  | setDecimals token decimals =>
    [("supported_token", .key (.ofContract token)), ("decimals", .u8 decimals)]

def usualUnits : TokenCall → UInt64
  | transfer .. => 1
  | approve .. => 1
  | setApprovalForAll .. => 1
  | burn .. => 1
  | deposit .. => 5
  | redeem .. => 5
  | setSupportedToken .. => 3
  | setDecimals .. => 3

def operation (c : TokenCall) : Operation where
  entryPoint := c.entryPoint
  arguments := .ofList c.entries
  usualPayment := some (c.usualUnits * Operation.motesPerUnit)

end TokenCall
end Courier
