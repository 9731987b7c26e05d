import Courier.Double.Basic
import Courier.Duration
import Courier.NameTable

/-! The settings of a relay, section by section, with their defaults. -/
namespace Courier

/-- Where the node is and which chain it serves. -/
structure NodeSettings where
  rpcUrl : String
  /-- Asked in order when the first address fails, for queries only. -/
  failoverUrls : List String
  chainName : String
  rpcTimeoutSecs : UInt64
deriving DecidableEq, Repr

structure SubmitSettings where
  maxAttempts : UInt32
  retryDelayMs : UInt64
  /-- Longest random addition to a delay, as a part of the delay. -/
  jitterRatio : Double
deriving DecidableEq, Repr

structure ConfirmSettings where
  maxPolls : UInt32
  pollIntervalMs : UInt64
deriving DecidableEq, Repr

/-- What a request uses when it says nothing itself. -/
structure DeploySettings where
  /-- Payment in motes. -/
  paymentAmount : UInt64
  ttlMs : UInt64
deriving DecidableEq, Repr

structure ObservabilitySettings where
  logLevel : String
  jsonLogs : Bool
  metricsAddress : Option String
deriving DecidableEq, Repr

/-- All settings. Contracts are texts of hashes under the names of the contracts. -/
structure Config where
  node : NodeSettings
  submit : SubmitSettings
  confirm : ConfirmSettings
  deploy : DeploySettings
  contracts : NameTable String
  observability : ObservabilitySettings
deriving DecidableEq, Repr

def NodeSettings.default : NodeSettings where
  rpcUrl := "http://localhost:7777/rpc"
  failoverUrls := []
  chainName := "casper-test"
  rpcTimeoutSecs := 10

def SubmitSettings.default : SubmitSettings where
  maxAttempts := 5
  retryDelayMs := 3000
  jitterRatio := 0

def ConfirmSettings.default : ConfirmSettings where
  maxPolls := 300
  pollIntervalMs := 1000

def DeploySettings.default : DeploySettings where
  paymentAmount := 10000000000
  ttlMs := 1800000

def ObservabilitySettings.default : ObservabilitySettings where
  logLevel := "info"
  jsonLogs := false
  metricsAddress := none

def Config.default : Config where
  node := .default
  submit := .default
  confirm := .default
  deploy := .default
  contracts := .empty
  observability := .default

def NodeSettings.rpcTimeout (s : NodeSettings) : Duration :=
  .ofSeconds s.rpcTimeoutSecs 0

def DeploySettings.ttl (s : DeploySettings) : Duration :=
  .ofMilliseconds s.ttlMs

def Config.contract? (c : Config) (name : String) : Option String :=
  c.contracts.get? name

/-- The directive that lets this program's log lines of a level through. -/
def logDirective (level : String) : String :=
  "ledger_relay=" ++ level

end Courier
