import Courier.Argument.Hash
import Courier.Config.Settings
import Courier.SocketAddress
import Courier.Url.Reader

/-! The rules that settings must keep. Every broken rule is reported, in a fixed order. -/
namespace Courier

/-- A setting that breaks a rule, by its path. -/
structure SettingError where
  field : String
  message : String
deriving DecidableEq, Repr

namespace SettingError

def toText (e : SettingError) : String :=
  e.field ++ ": " ++ e.message

def report (e : SettingError) : String :=
  "ValidationError \x7b field: " ++ Text.quote e.field ++ ", message: " ++ Text.quote e.message ++
    " \x7d"

end SettingError

namespace Config

def urlProblem? (text : String) : Option String :=
  match Url.ofText text with
  | .ok url => if url.isHttp then none else some ("unsupported scheme '" ++ url.scheme ++ "'")
  | .error e => some ("invalid URL '" ++ text ++ "': " ++ e.message)

def hashProblem? (text : String) : Option String :=
  match ContractHash.ofText text with
  | .ok _ => none
  | .error e => some e.message

def addressProblem? (text : String) : Option String :=
  if (SocketAddress.ofText? text).isSome then none
  else some ("'" ++ text ++ "' is not a socket address")

def check (field : String) (problem : Option String) : List SettingError :=
  (problem.map fun message => ⟨field, message⟩).toList

def require (field : String) (holds : Bool) (message : String) : List SettingError :=
  check field (if holds then none else some message)

def problems (c : Config) : List SettingError :=
  check "node.rpc_url" (urlProblem? c.node.rpcUrl) ++
  (c.node.failoverUrls.zipIdx.flatMap fun (url, i) =>
    check ("node.failover_urls[" ++ toString i ++ "]") (urlProblem? url)) ++
  require "node.chain_name" (!(Text.trim c.node.chainName.toList).isEmpty) "must not be empty" ++
  require "node.rpc_timeout_secs" (c.node.rpcTimeoutSecs != 0) "must be greater than 0" ++
  require "submit.max_attempts" (c.submit.maxAttempts != 0) "must be at least 1" ++
  require "submit.jitter_ratio" c.submit.jitterRatio.inUnit "must be between 0.0 and 1.0" ++
  require "confirm.max_polls" (c.confirm.maxPolls != 0) "must be at least 1" ++
  require "deploy.payment_amount" (c.deploy.paymentAmount != 0) "must be greater than 0" ++
  require "deploy.ttl_ms" (c.deploy.ttlMs != 0) "must be greater than 0" ++
  (c.contracts.entries.flatMap fun (name, hash) =>
    check ("contracts." ++ name) (hashProblem? hash)) ++
  check "observability.metrics_address" (c.observability.metricsAddress.bind addressProblem?)

end Config
end Courier
