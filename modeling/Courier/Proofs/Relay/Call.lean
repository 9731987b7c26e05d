import Courier.Proofs.AttemptBudget
import Courier.Proofs.Relay.Wait

/-!
The course of a submission: failed attempts with a completed wait after each, then the last
attempt, which is accepted, is the last one allowed, or has its wait cut by shutdown.
-/
namespace Courier.Relay

/-- The wait before a submission is repeated, for a random word. -/
def pause (policy : SubmitPolicy) (word : UInt64) : Duration :=
  Backoff.delay policy.retryDelay (Backoff.jitter policy.retryDelay policy.jitterRatio word)

/-- The log of an attempt that failed and is to be repeated, up to its wait. -/
def rejectedLog (request : Request) (error : TransportError) (word : UInt64) : Log :=
  [⟨.submit request, .error error⟩, ⟨.count (.submission false), ()⟩, ⟨.draw, word⟩,
    ⟨.count .submitRetry, ()⟩]

/-- An attempt that failed, with the word drawn for the wait after it. -/
structure Retry where
  error : TransportError
  word : UInt64

def Retry.log (request : Request) (policy : SubmitPolicy) (x : Retry) : Log :=
  rejectedLog request x.error x.word ++ elapsedLog (pause policy x.word)

/-- The last attempt of a submission and what came of it. -/
inductive LastAttempt where
  | accepted (receipt : Receipt)
  | exhausted (error : TransportError)
  | cancelled (error : TransportError) (word : UInt64) (cut : Cut)

namespace LastAttempt

def reply : LastAttempt → Except TransportError Receipt
  | accepted receipt => .ok receipt
  | exhausted error => .error error
  | cancelled error _ _ => .error error

def log (request : Request) (policy : SubmitPolicy) : LastAttempt → Log
  | accepted receipt => [⟨.submit request, .ok receipt⟩, ⟨.count (.submission true), ()⟩]
  | exhausted error => [⟨.submit request, .error error⟩, ⟨.count (.submission false), ()⟩]
  | cancelled error word cut => rejectedLog request error word ++ cut.log (pause policy word)

def result (number : UInt32) : LastAttempt → Except DeliveryError Receipt
  | accepted receipt => .ok receipt
  | exhausted error => .error (.remote number error)
  | cancelled _ _ _ => .error .cancelled

def Fits (number ceiling : Nat) : LastAttempt → Prop
  | accepted _ => number ≤ ceiling
  | exhausted _ => number = ceiling
  | cancelled _ _ _ => number < ceiling

theorem Fits.le {number ceiling : Nat} {x : LastAttempt} (h : x.Fits number ceiling) :
    number ≤ ceiling := by
  cases x with
  | accepted _ => exact h
  | exhausted _ => exact Nat.le_of_eq h
  | cancelled _ _ _ => exact Nat.le_of_lt h

def isCut : LastAttempt → Bool
  | cancelled _ _ _ => true
  | _ => false

theorem events_log (request : Request) (policy : SubmitPolicy) (x : LastAttempt) :
    events (x.log request policy) =
      .submitted request x.reply :: (if x.isCut then [.cut] else []) := by
  cases x with
  | accepted _ => rfl
  | exhausted _ => rfl
  | cancelled error word cut =>
    unfold log
    rw [events_append, events_cut_log]
    rfl

theorem result_eq_ok_iff {x : LastAttempt} {number : UInt32} {receipt : Receipt} :
    x.result number = .ok receipt ↔ x.reply = .ok receipt := by
  cases x <;> simp [result, reply]

theorem result_eq_remote_iff {x : LastAttempt} {number n : UInt32} {ceiling : Nat}
    (h : x.Fits number.toNat ceiling) {e : TransportError} :
    x.result number = .error (.remote n e) ↔
      x.reply = .error e ∧ number.toNat = ceiling ∧ n.toNat = number.toNat := by
  cases x with
  | accepted _ => simp [result, reply]
  | exhausted error =>
    have hceil : number.toNat = ceiling := h
    simp only [result, reply, Except.error.injEq, DeliveryError.remote.injEq, hceil, true_and]
    rw [← hceil, UInt32.toNat_inj]
    exact ⟨fun ⟨hn, he⟩ => ⟨he, hn.symm⟩, fun ⟨he, hn⟩ => ⟨hn.symm, he⟩⟩
  | cancelled _ _ _ =>
    have hlt : number.toNat < ceiling := h
    simp [result, Nat.ne_of_lt hlt]

theorem result_eq_cancelled_iff {x : LastAttempt} {number : UInt32} {ceiling : Nat}
    (h : x.Fits number.toNat ceiling) :
    x.result number = .error .cancelled ↔
      (∃ e, x.reply = .error e) ∧ number.toNat < ceiling ∧ x.isCut = true := by
  cases x with
  | accepted _ => simp [result, isCut]
  | exhausted _ => simp [result, isCut]
  | cancelled error _ _ => exact ⟨fun _ => ⟨⟨error, rfl⟩, h, rfl⟩, fun _ => rfl⟩

end LastAttempt

/-- What one attempt does: it is accepted, it was the last one, its wait is cut, or its wait
completes and the rest follows under a budget with one attempt less. -/
theorem attempt_of_yields_callFrom {request : Request} {policy : SubmitPolicy}
    {b : AttemptBudget} {t : Log} {r : Except DeliveryError Receipt}
    (h : (callFrom request policy b).Yields t r) :
    (∃ last : LastAttempt, t = last.log request policy ∧ r = last.result b.record.used ∧
      match last with
      | .accepted _ => True
      | .exhausted _ => b.record.hasRemaining = false
      | .cancelled _ _ _ => b.record.hasRemaining = true) ∨
    ∃ (x : Retry) (rest : Log), b.record.hasRemaining = true ∧
      t = x.log request policy ++ rest ∧ (callFrom request policy b.record).Yields rest r := by
  rw [callFrom] at h
  obtain ⟨reply, t₁, rfl, h₁⟩ := Dialogue.yields_ask.1 h
  cases reply with
  | ok receipt =>
    obtain ⟨t₂, rfl, h₂⟩ := log_of_yields_counting h₁
    obtain ⟨rfl, rfl⟩ := Dialogue.yields_done.1 h₂
    exact .inl ⟨.accepted receipt, rfl, rfl, trivial⟩
  | error e =>
    obtain ⟨t₂, rfl, h₂⟩ := log_of_yields_counting h₁
    by_cases hrem : b.record.hasRemaining = true
    · rw [if_pos hrem] at h₂
      obtain ⟨word, t₃, rfl, h₃⟩ := Dialogue.yields_ask.1 h₂
      obtain ⟨t₄, rfl, h₄⟩ := log_of_yields_counting h₃
      rcases log_of_yields_wait_andThen h₄ with ⟨rest, rfl, hrest⟩ | ⟨cut, rfl, rfl⟩
      · exact .inr ⟨⟨e, word⟩, rest, hrem, rfl, hrest⟩
      · exact .inl ⟨.cancelled e word cut, rfl, rfl, hrem⟩
    · rw [if_neg hrem] at h₂
      obtain ⟨rfl, rfl⟩ := Dialogue.yields_done.1 h₂
      exact .inl ⟨.exhausted e, rfl, rfl, Bool.eq_false_iff.2 hrem⟩

/-- Where a second attempt is allowed, shutdown can come after the first one. -/
theorem yields_call_cancelled {policy : SubmitPolicy} (h : 1 < policy.maxAttempts.toNat)
    (request : Request) (error : TransportError) (word : UInt64) (cut : Cut) :
    (call request policy).Yields ((LastAttempt.cancelled error word cut).log request policy)
      (.error .cancelled) := by
  have hrem : (AttemptBudget.ofLimit policy.maxAttempts).record.hasRemaining = true := by
    have hused := AttemptBudget.toNat_used_record_of_hasRemaining
      (AttemptBudget.hasRemaining_ofLimit policy.maxAttempts)
    rw [AttemptBudget.hasRemaining_iff, hused, AttemptBudget.limit_record,
      AttemptBudget.toNat_limit_ofLimit]
    change 0 + 1 < _
    omega
  unfold call
  rw [callFrom]
  refine Dialogue.yields_ask.2 ⟨_, _, rfl, ?_⟩
  refine Dialogue.yields_ask.2 ⟨_, _, rfl, ?_⟩
  rw [if_pos hrem]
  refine Dialogue.yields_ask.2 ⟨_, _, rfl, ?_⟩
  refine Dialogue.yields_ask.2 ⟨_, _, rfl, ?_⟩
  rw [wait_andThen]
  cases cut with
  | before => exact Dialogue.yields_ask.2 ⟨_, _, rfl, .done _⟩
  | during =>
    refine Dialogue.yields_ask.2 ⟨_, _, rfl, ?_⟩
    exact Dialogue.yields_ask.2 ⟨_, _, rfl, .done _⟩

/-- The course of the attempts that a budget still allows. -/
theorem course_of_yields_callFrom {request : Request} {policy : SubmitPolicy}
    {b : AttemptBudget} (hb : b.hasRemaining = true) {t : Log}
    {r : Except DeliveryError Receipt} (h : (callFrom request policy b).Yields t r) :
    ∃ (retries : List Retry) (last : LastAttempt) (number : UInt32),
      t = retries.flatMap (Retry.log request policy) ++ last.log request policy ∧
      r = last.result number ∧ number.toNat = b.used.toNat + retries.length + 1 ∧
      last.Fits number.toNat b.limit.toNat := by
  -- The attempts that the budget has counted and those in the log add up to the last number.
  induction b using callFrom.induct generalizing t with
  | case1 b ih =>
    have hused := AttemptBudget.toNat_used_record_of_hasRemaining hb
    have hlt := (AttemptBudget.hasRemaining_iff b).1 hb
    rcases attempt_of_yields_callFrom h with ⟨last, rfl, rfl, hlast⟩ | ⟨x, rest, hrem, rfl, hrest⟩
    · refine ⟨[], last, b.record.used, rfl, rfl, by simpa using hused, ?_⟩
      have hrem := AttemptBudget.hasRemaining_iff b.record
      rw [AttemptBudget.limit_record] at hrem
      cases last with
      | accepted _ => exact hused ▸ hlt
      | exhausted _ =>
        have hnot : ¬ b.record.used.toNat < b.limit.toNat := by simpa [hlast] using hrem
        change b.record.used.toNat = b.limit.toNat
        omega
      | cancelled _ _ _ => exact hrem.1 hlast
    · obtain ⟨retries, last, number, rfl, rfl, hnum, hfits⟩ := ih hrem hrem hrest
      refine ⟨x :: retries, last, number, by simp, rfl, ?_, hfits⟩
      rw [hnum, hused, List.length_cons]
      omega

theorem course_of_yields_call {request : Request} {policy : SubmitPolicy} {t : Log}
    {r : Except DeliveryError Receipt} (h : (call request policy).Yields t r) :
    ∃ (retries : List Retry) (last : LastAttempt) (number : UInt32),
      t = retries.flatMap (Retry.log request policy) ++ last.log request policy ∧
      r = last.result number ∧ number.toNat = retries.length + 1 ∧
      last.Fits number.toNat (max 1 policy.maxAttempts.toNat) := by
  obtain ⟨retries, last, number, ht, hr, hnum, hfits⟩ :=
    course_of_yields_callFrom (AttemptBudget.hasRemaining_ofLimit _) h
  rw [AttemptBudget.toNat_limit_ofLimit] at hfits
  exact ⟨retries, last, number, ht, hr, by simpa [AttemptBudget.ofLimit] using hnum, hfits⟩

/-- Failed attempts of a request, each with the completed wait after it. -/
def rejections (request : Request) (failed : List (TransportError × Duration)) : List Event :=
  failed.flatMap fun f => [.submitted request (.error f.1), .waited f.2]

/-- Whatever the node answers and whenever shutdown comes: one attempt at least and the limit at
most, a completed wait between two attempts and none elsewhere. An acceptance is always handed
back, the last error when all attempts failed, and a cancellation only for a wait that was cut. -/
theorem call_course {σ : Type} (answer : (q : Question) → σ → Answer q × σ) (s : σ)
    (request : Request) (policy : SubmitPolicy) :
    ∃ (failed : List (TransportError × Duration)) (last : Except TransportError Receipt)
      (cut : Bool),
      let result := ((call request policy).run answer s).1
      let attempts := failed.length + 1
      let ceiling := max 1 policy.maxAttempts.toNat
      events ((call request policy).transcript answer s) =
        rejections request failed ++ .submitted request last :: (if cut then [.cut] else []) ∧
      (∀ f ∈ failed, ∃ word, f.2 = pause policy word) ∧
      attempts ≤ ceiling ∧
      (∀ receipt, result = .ok receipt ↔ last = .ok receipt) ∧
      (∀ n e, result = .error (.remote n e) ↔
        last = .error e ∧ attempts = ceiling ∧ n.toNat = attempts) ∧
      (result = .error .cancelled ↔
        (∃ e, last = .error e) ∧ attempts < ceiling ∧ cut = true) ∧
      (cut = true → result = .error .cancelled) ∧
      ((∃ receipt, result = .ok receipt) ∨ (∃ n e, result = .error (.remote n e)) ∨
        result = .error .cancelled) := by
  obtain ⟨retries, last, number, ht, hr, hnum, hfits⟩ :=
    course_of_yields_call (Dialogue.yields_transcript answer (call request policy) s)
  rw [ht, hr]
  have hevents : events (retries.flatMap (Retry.log request policy)) =
      rejections request (retries.map fun x => (x.error, pause policy x.word)) := by
    rw [events_flatMap, rejections, List.flatMap_map]
    rfl
  have hwords : ∀ f ∈ retries.map (fun x => (x.error, pause policy x.word)),
      ∃ word, f.2 = pause policy word := by
    intro f hf
    obtain ⟨x, -, rfl⟩ := List.mem_map.1 hf
    exact ⟨x.word, rfl⟩
  have hlen : (retries.map fun x => (x.error, pause policy x.word)).length + 1 =
      number.toNat := by
    rw [List.length_map, hnum]
  refine ⟨retries.map fun x => (x.error, pause policy x.word), last.reply, last.isCut, ?_⟩
  dsimp only
  rw [events_append, hevents, LastAttempt.events_log, hlen]
  refine ⟨rfl, hwords, hfits.le, fun _ => LastAttempt.result_eq_ok_iff,
    fun _ _ => LastAttempt.result_eq_remote_iff hfits, LastAttempt.result_eq_cancelled_iff hfits,
    ?_, ?_⟩
  · cases last <;> simp [LastAttempt.isCut, LastAttempt.result]
  · cases last <;> simp [LastAttempt.result]

end Courier.Relay
