import Courier.Proofs.Numeral
import Courier.Proofs.Text
import Mathlib.Data.Prod.Lex
import Mathlib.Data.String.Basic

/-!
The settings that have a rule, with their paths in error messages and the order in which their rules
are checked.
-/
namespace Courier

inductive Setting where
  | rpcUrl
  | failoverUrl (index : Nat)
  | chainName
  | rpcTimeoutSecs
  | maxAttempts
  | jitterRatio
  | maxPolls
  | paymentAmount
  | ttlMs
  | contract (name : String)
  | metricsAddress
deriving DecidableEq

namespace Setting

def path : Setting → String
  | rpcUrl => "node.rpc_url"
  | failoverUrl i => "node.failover_urls[" ++ toString i ++ "]"
  | chainName => "node.chain_name"
  | rpcTimeoutSecs => "node.rpc_timeout_secs"
  | maxAttempts => "submit.max_attempts"
  | jitterRatio => "submit.jitter_ratio"
  | maxPolls => "confirm.max_polls"
  | paymentAmount => "deploy.payment_amount"
  | ttlMs => "deploy.ttl_ms"
  | contract name => "contracts." ++ name
  | metricsAddress => "observability.metrics_address"

/-- The place of a rule among all rules. The addresses of a list go by their index, contracts by
their name. -/
def place : Setting → ℕ ×ₗ ℕ ×ₗ String
  | rpcUrl => toLex (0, toLex (0, ""))
  | failoverUrl i => toLex (1, toLex (i, ""))
  | chainName => toLex (2, toLex (0, ""))
  | rpcTimeoutSecs => toLex (3, toLex (0, ""))
  | maxAttempts => toLex (4, toLex (0, ""))
  | jitterRatio => toLex (5, toLex (0, ""))
  | maxPolls => toLex (6, toLex (0, ""))
  | paymentAmount => toLex (7, toLex (0, ""))
  | ttlMs => toLex (8, toLex (0, ""))
  | contract name => toLex (9, toLex (0, name))
  | metricsAddress => toLex (10, toLex (0, ""))

theorem toList_path_failoverUrl (i : Nat) :
    (failoverUrl i).path.toList = "node.failover_urls[".toList ++ (Numeral.decimal i ++ [']']) := by
  change ("node.failover_urls[" ++ toString i ++ "]").toList = _
  rw [String.toList_append, String.toList_append, List.append_assoc]
  congr 2
  exact String.toList_ofList

theorem toList_path_contract (name : String) :
    (contract name).path.toList = "contracts.".toList ++ name.toList :=
  String.toList_append

/-- The paths of listed addresses are told by their beginning. -/
theorem after?_addressMark (s : Setting) :
    Text.after? "node.failover_urls[".toList s.path.toList =
      match s with
      | failoverUrl i => some (Numeral.decimal i ++ [']'])
      | _ => none := by
  cases s with
  | failoverUrl i => rw [toList_path_failoverUrl, Text.after?_append]
  | contract name =>
    rw [toList_path_contract]
    rfl
  | _ => decide +kernel

/-- The paths of contracts are told by their beginning. -/
theorem after?_contractMark (s : Setting) :
    Text.after? "contracts.".toList s.path.toList =
      match s with
      | contract name => some name.toList
      | _ => none := by
  cases s with
  | failoverUrl i =>
    rw [toList_path_failoverUrl]
    rfl
  | contract name => rw [toList_path_contract, Text.after?_append]
  | _ => decide +kernel

/-- No two settings have one path. -/
theorem path_injective : Function.Injective path := by
  intro s t h
  have haddress := after?_addressMark s
  have hcontract := after?_contractMark s
  rw [h, after?_addressMark t] at haddress
  rw [h, after?_contractMark t] at hcontract
  cases s with
  | failoverUrl i =>
    cases t with
    | failoverUrl j =>
      have hdecimal : Numeral.decimal j = Numeral.decimal i := by simpa using haddress
      have hsame := congrArg Numeral.digits? hdecimal
      rw [Numeral.digits?_decimal, Numeral.digits?_decimal, Option.some.injEq] at hsame
      rw [hsame]
    | _ => cases haddress
  | contract name =>
    cases t with
    | contract name' =>
      have hname : name'.toList = name.toList := by simpa using hcontract
      rw [String.toList_inj.1 hname]
    | _ => cases hcontract
  | _ =>
    cases t with
    | failoverUrl j => cases haddress
    | contract name' => cases hcontract
    | _ =>
      revert h
      decide +kernel

end Setting

end Courier
