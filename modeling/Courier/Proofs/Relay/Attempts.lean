import Courier.Proofs.Relay.Finding
import Courier.Proofs.Relay.Retries

/-!
How many attempts a limit allows. The count of a budget stops at the largest word, which no limit
exceeds, so a loop that asks whether an attempt remains comes to its end under every limit.
-/
namespace Courier.Relay

def Event.isAsked : Event → Bool
  | .asked _ _ => true
  | _ => false

def queries (log : Log) : Nat :=
  (events log).countP Event.isAsked

/-- Parts of a log that show one event of a kind each. -/
theorem countP_events_flatMap {ι : Type} {p : Event → Bool} {f : ι → Log}
    (h : ∀ i, (events (f i)).countP p = 1) (l : List ι) :
    (events (l.flatMap f)).countP p = l.length := by
  induction l with
  | nil => rfl
  | cons i l ih =>
    rw [List.flatMap_cons, events_append, List.countP_append, h, ih, List.length_cons]
    omega

theorem submissions_of_yields_call {request : Request} {policy : SubmitPolicy} {t : Log}
    {r : Except DeliveryError Receipt} (h : (call request policy).Yields t r) :
    1 ≤ submissions t ∧ submissions t ≤ max 1 policy.maxAttempts.toNat := by
  obtain ⟨retries, last, number, rfl, -, hnum, hfits⟩ := course_of_yields_call h
  have hretries := countP_events_flatMap (p := Event.isSubmitted)
    (fun x : Retry => (rfl : (events (x.log request policy)).countP _ = 1)) retries
  have hlast : (events (last.log request policy)).countP Event.isSubmitted = 1 := by
    rw [LastAttempt.events_log]
    split <;> rfl
  have hle := hfits.le
  unfold submissions
  rw [events_append, List.countP_append, hretries, hlast]
  omega

theorem queries_of_yields_confirm {receipt : Receipt} {policy : PollPolicy} {t : Log}
    {r : Except DeliveryError Json} (h : (confirm receipt policy).Yields t r) :
    1 ≤ queries t ∧ queries t ≤ max 1 policy.maxPolls.toNat := by
  obtain ⟨idle, last, number, -, rfl, -, hnum, hfits⟩ := course_of_yields_confirm h
  have hidle := countP_events_flatMap (p := Event.isAsked)
    (fun reply => (rfl : (events (idleLog receipt policy reply)).countP _ = 1)) idle
  have hlast : (events (last.log receipt policy)).countP Event.isAsked = 1 := by
    rw [LastQuery.events_log]
    split <;> rfl
  have hle := hfits.le
  unfold queries
  rw [events_append, List.countP_append, hidle, hlast]
  omega

/-- A confirmation asks for the outcome of its receipt only. -/
theorem eq_of_asked_mem_confirm {receipt r : Receipt} {policy : PollPolicy} {t : Log}
    {result : Except DeliveryError Json} {reply : Except TransportError OutcomeStatus}
    (h : (confirm receipt policy).Yields t result) (hasked : .asked r reply ∈ events t) :
    r = receipt := by
  obtain ⟨idle, last, number, -, rfl, -, -, -⟩ := course_of_yields_confirm h
  rw [events_append, events_flatMap_idleLog, LastQuery.events_log, List.mem_append] at hasked
  rcases hasked with hidle | hlast
  · obtain ⟨x, -, hx⟩ := List.mem_flatMap.1 hidle
    have heq : Event.asked r reply = .asked receipt x := by simpa using hx
    exact (Event.asked.inj heq).1
  · rcases List.mem_cons.1 hlast with heq | hcut
    · exact (Event.asked.inj heq).1
    · split at hcut <;> simp at hcut

/-- A budget under any limit. Attempts that are made only while one remains are as many as the
limit at most, and can be as many. Each attempt has its number, which stops at the largest word;
what is left is the limit without the attempts, and an attempt remains exactly as long as something
is left. Where one remains the count is below the limit and goes up. The loops of a relay keep to
the limit, whatever is answered. -/
theorem limit_bounds_attempts (limit : UInt32) :
    (∀ n, (∀ k < n, ((AttemptBudget.ofLimit limit).recordMany k).hasRemaining = true) ↔
      n ≤ max 1 limit.toNat) ∧
    let ceiling := max 1 limit.toNat
    let after (k : Nat) := (AttemptBudget.ofLimit limit).recordMany k
    (∀ k,
      (after k).record.used.toNat = min (k + 1) 0xFFFFFFFF ∧
      (after k).used.toNat = min k 0xFFFFFFFF ∧
      (after k).remaining.toNat = ceiling - min k ceiling ∧
      ((after k).hasRemaining = true ↔ 0 < (after k).remaining) ∧
      ((after k).hasRemaining = true ↔ k < ceiling) ∧
      ((after k).hasRemaining = true → (after k).used.toNat < ceiling ∧
        (after (k + 1)).used.toNat = (after k).used.toNat + 1)) ∧
    ∀ {σ : Type} (answer : (q : Question) → σ → Answer q × σ) (s : σ),
      (∀ request (policy : SubmitPolicy),
        let log := (call request (policy.withMaxAttempts limit)).transcript answer s
        1 ≤ submissions log ∧ submissions log ≤ ceiling) ∧
      ∀ receipt interval,
        let log := (confirm receipt ⟨limit, interval⟩).transcript answer s
        1 ≤ queries log ∧ queries log ≤ ceiling := by
  have hlimit : (AttemptBudget.ofLimit limit).limit.toNat = max 1 limit.toNat :=
    AttemptBudget.toNat_limit_ofLimit limit
  have hfresh : (AttemptBudget.ofLimit limit).used.toNat = 0 := rfl
  refine ⟨fun n => ?_, ?_⟩
  · rw [AttemptBudget.forall_hasRemaining_iff, hlimit, hfresh, Nat.sub_zero]
  intro ceiling after
  -- No ceiling lies above the largest word, so a count that stopped there has reached its ceiling.
  have hceiling : ceiling ≤ 0xFFFFFFFF := by
    have hword := limit.toNat_lt
    omega
  have hused (k : Nat) : (after k).used.toNat = min k 0xFFFFFFFF := by
    rw [AttemptBudget.toNat_used_recordMany, hfresh, Nat.zero_add]
  have hremains (k : Nat) : (after k).hasRemaining = true ↔ k < ceiling := by
    rw [AttemptBudget.hasRemaining_recordMany_iff, hfresh, hlimit, Nat.zero_add]
  refine ⟨fun k => ⟨?_, hused k, ?_, AttemptBudget.hasRemaining_iff_remaining_pos _, hremains k,
    fun h => ?_⟩, fun answer s => ⟨?_, ?_⟩⟩
  · rw [AttemptBudget.toNat_used_record, hused]
    omega
  · rw [AttemptBudget.toNat_remaining, AttemptBudget.limit_recordMany, hlimit, hused]
    omega
  · have hk := (hremains k).1 h
    rw [hused, hused]
    omega
  · intro request policy
    exact submissions_of_yields_call (Dialogue.yields_transcript answer _ s)
  · intro receipt interval
    exact queries_of_yields_confirm (Dialogue.yields_transcript answer _ s)

end Courier.Relay
