import Courier.Proofs.Backoff
import Courier.Proofs.Relay.Call
import Courier.Proofs.Relay.Confirm

/-!
How long a relay asks to sleep between two attempts. A confirmation sleeps as long as its policy
says. A submission makes its delay again from whole milliseconds, and so sleeps less wherever the
delay is no whole number of them that fits a word.
-/
namespace Courier
namespace Relay

/-- How long an entry of a log asks to sleep. -/
def sleep? : (q : Question) × Answer q → Option Duration
  | ⟨.sleep time, _⟩ => some time
  | _ => none

def sleeps (log : Log) : List Duration :=
  log.filterMap sleep?

theorem sleeps_append (a b : Log) : sleeps (a ++ b) = sleeps a ++ sleeps b :=
  List.filterMap_append

theorem mem_sleeps_flatMap {ι : Type} {f : ι → Log} {l : List ι} {time : Duration} :
    time ∈ sleeps (l.flatMap f) ↔ ∃ i ∈ l, time ∈ sleeps (f i) := by
  unfold sleeps
  rw [List.filterMap_flatMap, List.mem_flatMap]

theorem Cut.eq_of_mem_sleeps {time asked : Duration} {cut : Cut}
    (h : asked ∈ sleeps (cut.log time)) : asked = time := by
  cases cut with
  | before => cases h
  | during => exact List.mem_singleton.1 h

/-- A submission sleeps only where a second attempt is allowed, for a pause of its policy. -/
theorem pause_of_mem_sleeps {request : Request} {policy : SubmitPolicy} {t : Log}
    {r : Except DeliveryError Receipt} (h : (call request policy).Yields t r) {time : Duration}
    (htime : time ∈ sleeps t) :
    1 < policy.maxAttempts.toNat ∧ ∃ word, time = pause policy word := by
  obtain ⟨retries, last, number, rfl, -, hnum, hfits⟩ := course_of_yields_call h
  rw [sleeps_append, List.mem_append, mem_sleeps_flatMap] at htime
  rcases htime with ⟨x, hx, hslept⟩ | hslept
  · have hlength := List.length_pos_of_mem hx
    have hle := hfits.le
    refine ⟨by omega, x.word, ?_⟩
    exact List.mem_singleton.1 hslept
  · cases last with
    | accepted _ => cases hslept
    | exhausted _ => cases hslept
    | cancelled error word cut =>
      have hlt : number.toNat < max 1 policy.maxAttempts.toNat := hfits
      exact ⟨by omega, word, cut.eq_of_mem_sleeps hslept⟩

theorem eq_of_mem_sleeps_confirm {receipt : Receipt} {policy : PollPolicy} {t : Log}
    {r : Except DeliveryError Json} (h : (confirm receipt policy).Yields t r) {time : Duration}
    (htime : time ∈ sleeps t) : time = policy.pollInterval := by
  obtain ⟨idle, last, number, -, rfl, -, -, -⟩ := course_of_yields_confirm h
  rw [sleeps_append, List.mem_append, mem_sleeps_flatMap] at htime
  rcases htime with ⟨reply, -, hslept⟩ | hslept
  · exact List.mem_singleton.1 hslept
  · cases last with
    | settled _ => cases hslept
    | spent _ => cases hslept
    | cancelled reply cut => exact cut.eq_of_mem_sleeps hslept

/-- Without jitter, a pause is the delay in whole milliseconds, as many as fit a word. -/
theorem pause_of_isZero {policy : SubmitPolicy} (h : policy.jitterRatio.IsZero) (word : UInt64) :
    pause policy word = .ofMilliseconds policy.retryDelay.wireMilliseconds := by
  have hjitter : Backoff.jitter policy.retryDelay policy.jitterRatio word = 0 := by
    unfold Backoff.jitter
    dsimp only
    rw [Backoff.jitterRange_of_isZero h, if_pos rfl]
  unfold pause Backoff.delay
  rw [hjitter, UInt64.add_zero]

end Relay

open Relay

/-- Under a policy whose delays are only lengthened, submissions are the same in a build that checks
its sums: whatever is drawn, it has the same pause. -/
theorem SubmitPolicy.Lengthens.delay?_eq_pause {policy : SubmitPolicy} (h : policy.Lengthens)
    (word : UInt64) :
    Backoff.delay? policy.retryDelay
        (Backoff.jitter policy.retryDelay policy.jitterRatio word) = some (pause policy word) := by
  obtain ⟨d, hd, -⟩ := h _ ⟨word, rfl⟩
  obtain ⟨-, rfl⟩ := Backoff.delay?_eq_some_iff.1 hd
  exact hd

/-- Whatever happens, each sleep between two submissions takes the delay of the policy. -/
def SubmitPolicy.Punctual (policy : SubmitPolicy) : Prop :=
  ∀ (request : Request) (t : Log) (r : Except DeliveryError Receipt),
    (call request policy).Yields t r → ∀ time ∈ sleeps t, time = policy.retryDelay

/-- Whatever happens, no sleep between two submissions is shorter than the delay of the policy. -/
def SubmitPolicy.NeverEarly (policy : SubmitPolicy) : Prop :=
  ∀ (request : Request) (t : Log) (r : Except DeliveryError Receipt),
    (call request policy).Yields t r →
      ∀ time ∈ sleeps t, policy.retryDelay.nanoseconds ≤ time.nanoseconds

/-- Whatever happens, each sleep between two queries takes the interval of the policy. -/
def PollPolicy.Punctual (policy : PollPolicy) : Prop :=
  ∀ (receipt : Receipt) (t : Log) (r : Except DeliveryError Json),
    (confirm receipt policy).Yields t r → ∀ time ∈ sleeps t, time = policy.pollInterval

namespace SubmitPolicy

variable {policy : SubmitPolicy}

theorem Punctual.neverEarly (h : policy.Punctual) : policy.NeverEarly := by
  intro request t r hyields time htime
  rw [h request t r hyields time htime]

/-- Where a pause is too short, some submission sleeps for it. -/
theorem NeverEarly.le_pause (h : policy.NeverEarly) (hlimit : 1 < policy.maxAttempts.toNat)
    (word : UInt64) : policy.retryDelay.nanoseconds ≤ (pause policy word).nanoseconds := by
  have hyields := yields_call_cancelled hlimit ((Request.Draft.install [0]).build .default)
    (.http "") word .during
  exact h _ _ _ hyields _ List.mem_cons_self

/-- A policy that is never early allows no second attempt, or has a delay that is a whole number of
milliseconds and fits a word. -/
theorem exists_ofMilliseconds_of_neverEarly (hzero : policy.jitterRatio.IsZero)
    (h : policy.NeverEarly) :
    policy.maxAttempts.toNat ≤ 1 ∨ ∃ n, policy.retryDelay = .ofMilliseconds n := by
  rcases Nat.lt_or_ge 1 policy.maxAttempts.toNat with hlimit | hlimit
  · have hle := h.le_pause hlimit 0
    rw [pause_of_isZero hzero] at hle
    have hsame := Nat.le_antisymm (Duration.nanoseconds_ofMilliseconds_le _) hle
    exact .inr (Duration.ofMilliseconds_wireMilliseconds_eq_iff.1 (Duration.ext_nanoseconds hsame))
  · exact .inl hlimit

theorem punctual_of_ofMilliseconds (hzero : policy.jitterRatio.IsZero)
    (h : policy.maxAttempts.toNat ≤ 1 ∨ ∃ n, policy.retryDelay = .ofMilliseconds n) :
    policy.Punctual := by
  intro request t r hyields time htime
  obtain ⟨hlimit, word, rfl⟩ := pause_of_mem_sleeps hyields htime
  rw [pause_of_isZero hzero]
  exact Duration.ofMilliseconds_wireMilliseconds_eq_iff.2 (h.resolve_left (by omega))

/-- Without jitter, a submission sleeps for exactly the delay of its policy if that is a whole
number of milliseconds that fits a word, or if there is no second attempt, and sleeps less
otherwise. A confirmation always sleeps for exactly the interval of its policy. -/
theorem pauses_kept (hzero : policy.jitterRatio.IsZero) :
    (policy.Punctual ↔
      policy.maxAttempts.toNat ≤ 1 ∨ ∃ n, policy.retryDelay = .ofMilliseconds n) ∧
    (policy.NeverEarly ↔ policy.Punctual) ∧ ∀ poll : PollPolicy, poll.Punctual := by
  have hpunctual := punctual_of_ofMilliseconds hzero
  have hwhole := exists_ofMilliseconds_of_neverEarly hzero
  refine ⟨⟨fun h => hwhole h.neverEarly, hpunctual⟩, ⟨fun h => hpunctual (hwhole h),
    Punctual.neverEarly⟩, ?_⟩
  intro poll receipt t r hyields time htime
  exact eq_of_mem_sleeps_confirm hyields htime

theorem pauses_kept_default :
    SubmitPolicy.default.jitterRatio.IsZero ∧ SubmitPolicy.default.Punctual := by
  have hzero : SubmitPolicy.default.jitterRatio.IsZero := rfl
  exact ⟨hzero, (pauses_kept hzero).1.2 (.inr ⟨3000, rfl⟩)⟩

/-- Two attempts, half a millisecond apart. -/
def brisk : SubmitPolicy where
  maxAttempts := 2
  retryDelay := .ofSeconds 0 ⟨500000, by decide⟩
  jitterRatio := 0

/-- The second attempt follows at once. -/
theorem not_neverEarly_brisk :
    brisk.jitterRatio.IsZero ∧ ¬ brisk.Punctual ∧ ¬ brisk.NeverEarly := by
  have hzero : brisk.jitterRatio.IsZero := rfl
  have hearly : ¬ brisk.NeverEarly := by
    intro h
    have hle := h.le_pause (by decide) 0
    rw [pause_of_isZero hzero] at hle
    exact absurd hle (by decide)
  exact ⟨hzero, fun h => hearly h.neverEarly, hearly⟩

end SubmitPolicy
end Courier
