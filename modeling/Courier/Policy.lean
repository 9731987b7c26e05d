import Courier.Config.Settings
import Courier.Double.Shortest

/-! How often and how fast a relay submits and polls. -/
namespace Courier

structure SubmitPolicy where
  maxAttempts : UInt32
  retryDelay : Duration
  /-- Longest random addition to a delay, as a part of the delay. -/
  jitterRatio : Double
deriving DecidableEq, Repr

structure PollPolicy where
  maxPolls : UInt32
  pollInterval : Duration
deriving DecidableEq, Repr

def SubmitPolicy.ofSettings (s : SubmitSettings) : SubmitPolicy where
  maxAttempts := s.maxAttempts
  retryDelay := .ofMilliseconds s.retryDelayMs
  jitterRatio := s.jitterRatio

def PollPolicy.ofSettings (s : ConfirmSettings) : PollPolicy where
  maxPolls := s.maxPolls
  pollInterval := .ofMilliseconds s.pollIntervalMs

def SubmitPolicy.default : SubmitPolicy := .ofSettings .default

def PollPolicy.default : PollPolicy := .ofSettings .default

def SubmitPolicy.withMaxAttempts (p : SubmitPolicy) (maxAttempts : UInt32) : SubmitPolicy :=
  { p with maxAttempts := maxAttempts }

structure RelayPolicies where
  submit : SubmitPolicy
  poll : PollPolicy
deriving DecidableEq, Repr

namespace RelayPolicies

def ofConfig (c : Config) : RelayPolicies where
  submit := .ofSettings c.submit
  poll := .ofSettings c.confirm

def report (p : RelayPolicies) : String :=
  "Relay \x7b submit_policy: SubmitPolicy \x7b max_attempts: " ++ toString p.submit.maxAttempts ++
    ", retry_delay: " ++ p.submit.retryDelay.toText ++
    ", jitter_ratio: " ++ p.submit.jitterRatio.toText .diagnostic ++
    " \x7d, poll_policy: PollPolicy \x7b max_polls: " ++ toString p.poll.maxPolls ++
    ", poll_interval: " ++ p.poll.pollInterval.toText ++ " \x7d \x7d"

end RelayPolicies
end Courier
