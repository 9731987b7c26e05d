import Courier.Config.Settings
import Courier.Toml.Reader

/-!
Settings from a settings file. What the file leaves out has its default and what nobody knows is
passed over. A section may also be a list of its settings in their order.
-/
namespace Courier

/-- The name under which a date or time shows where entries are expected. -/
def Toml.momentName : String := "$__toml_private_datetime"

/-- How the settings of a section are found: by name, or by their place among `names`. -/
def Toml.Value.section? (names : List String) : Toml.Value → Option (String → Option Toml.Value)
  | .table entries => some fun name => (entries.find? fun e => e.1 == name).map Prod.snd
  | .array items => some fun name => ((names.zip items).find? fun e => e.1 == name).map Prod.snd
  | .moment _ => some fun _ => none
  | _ => none

/-- A setting that is there must be readable; one that is not has its default. -/
def readOr {α : Type} (read : Toml.Value → Option α) (default : α) :
    Option Toml.Value → Option α
  | none => some default
  | some v => read v

def Toml.Value.u64? (v : Toml.Value) : Option UInt64 :=
  (v.below? UInt64.size).map UInt64.ofNat

def Toml.Value.u32? (v : Toml.Value) : Option UInt32 :=
  (v.below? UInt32.size).map UInt32.ofNat

def NodeSettings.ofToml? (v : Toml.Value) : Option NodeSettings := do
  let at? ← v.section? ["rpc_url", "failover_urls", "chain_name", "rpc_timeout_secs"]
  let d := NodeSettings.default
  return {
    rpcUrl := ← readOr Toml.Value.text? d.rpcUrl (at? "rpc_url")
    failoverUrls := ← readOr Toml.Value.texts? d.failoverUrls (at? "failover_urls")
    chainName := ← readOr Toml.Value.text? d.chainName (at? "chain_name")
    rpcTimeoutSecs := ← readOr Toml.Value.u64? d.rpcTimeoutSecs (at? "rpc_timeout_secs") }

def SubmitSettings.ofToml? (v : Toml.Value) : Option SubmitSettings := do
  let at? ← v.section? ["max_attempts", "retry_delay_ms", "jitter_ratio"]
  let d := SubmitSettings.default
  return {
    maxAttempts := ← readOr Toml.Value.u32? d.maxAttempts (at? "max_attempts")
    retryDelayMs := ← readOr Toml.Value.u64? d.retryDelayMs (at? "retry_delay_ms")
    jitterRatio := ← readOr Toml.Value.real? d.jitterRatio (at? "jitter_ratio") }

def ConfirmSettings.ofToml? (v : Toml.Value) : Option ConfirmSettings := do
  let at? ← v.section? ["max_polls", "poll_interval_ms"]
  let d := ConfirmSettings.default
  return {
    maxPolls := ← readOr Toml.Value.u32? d.maxPolls (at? "max_polls")
    pollIntervalMs := ← readOr Toml.Value.u64? d.pollIntervalMs (at? "poll_interval_ms") }

def DeploySettings.ofToml? (v : Toml.Value) : Option DeploySettings := do
  let at? ← v.section? ["payment_amount", "ttl_ms"]
  let d := DeploySettings.default
  return {
    paymentAmount := ← readOr Toml.Value.u64? d.paymentAmount (at? "payment_amount")
    ttlMs := ← readOr Toml.Value.u64? d.ttlMs (at? "ttl_ms") }

def ObservabilitySettings.ofToml? (v : Toml.Value) : Option ObservabilitySettings := do
  let at? ← v.section? ["log_level", "json_logs", "metrics_address"]
  let d := ObservabilitySettings.default
  return {
    logLevel := ← readOr Toml.Value.text? d.logLevel (at? "log_level")
    jsonLogs := ← readOr Toml.Value.bool? d.jsonLogs (at? "json_logs")
    metricsAddress :=
      ← readOr (fun v => v.text?.map some) d.metricsAddress (at? "metrics_address") }

/-- Named hashes, each a text. -/
def contractsOfToml? : Toml.Value → Option (NameTable String)
  | .table entries => do
    let named ← entries.mapM fun (name, v) => v.text?.map (name, ·)
    return .ofList named
  | .moment text => some (.ofList [(Toml.momentName, text)])
  | _ => none

def Config.ofToml? (v : Toml.Value) : Option Config := do
  let at? ← v.section? []
  let d := Config.default
  return {
    node := ← readOr NodeSettings.ofToml? d.node (at? "node")
    submit := ← readOr SubmitSettings.ofToml? d.submit (at? "submit")
    confirm := ← readOr ConfirmSettings.ofToml? d.confirm (at? "confirm")
    deploy := ← readOr DeploySettings.ofToml? d.deploy (at? "deploy")
    contracts := ← readOr contractsOfToml? d.contracts (at? "contracts")
    observability := ← readOr ObservabilitySettings.ofToml? d.observability (at? "observability") }

def Config.ofText? (s : String) : Option Config :=
  (Toml.ofText? s).bind Config.ofToml?

end Courier
