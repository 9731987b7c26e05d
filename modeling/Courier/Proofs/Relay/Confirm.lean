import Courier.Proofs.AttemptBudget
import Courier.Proofs.Relay.Wait

/-!
The course of a confirmation: queries that found nothing with a completed wait after each, then the
last query, which found the verdict, is the last one allowed, or has its wait cut by shutdown.
-/
namespace Courier.Relay

/-- A reply without a verdict: none yet, or an error on the way. -/
def Inconclusive (reply : Except TransportError OutcomeStatus) : Prop :=
  reply = .ok .pending ∨ ∃ e, reply = .error e

theorem found_eq_none_iff {reply : Except TransportError OutcomeStatus} :
    (found reply).2 = none ↔ Inconclusive reply := by
  rcases reply with e | _ | verdict <;> simp [found, Inconclusive]

theorem found_eq_some_iff {reply : Except TransportError OutcomeStatus} {verdict : Verdict} :
    (found reply).2 = some verdict ↔ reply = .ok (.executed verdict) := by
  rcases reply with e | _ | v <;> simp [found]

theorem Inconclusive.ne_executed {reply : Except TransportError OutcomeStatus}
    (h : Inconclusive reply) (verdict : Verdict) : reply ≠ .ok (.executed verdict) := by
  rintro rfl
  simp [Inconclusive] at h

def queryLog (receipt : Receipt) (reply : Except TransportError OutcomeStatus) : Log :=
  [⟨.outcome receipt, reply⟩, ⟨.count (.poll (found reply).1), ()⟩]

/-- The log of a query that found nothing and the completed wait after it. -/
def idleLog (receipt : Receipt) (policy : PollPolicy)
    (reply : Except TransportError OutcomeStatus) : Log :=
  queryLog receipt reply ++ elapsedLog policy.pollInterval

def verdictKind : Verdict → OutcomeKind
  | .success _ => .success
  | .failure _ => .failure

def verdictResult : Verdict → Except DeliveryError Json
  | .success payload => .ok payload
  | .failure message => .error (.execution message)

theorem verdictResult_injective : Function.Injective verdictResult := by
  intro a b h
  cases a <;> cases b <;> simp_all [verdictResult]

/-- The last query of a confirmation and what came of it. -/
inductive LastQuery where
  | settled (verdict : Verdict)
  | spent (reply : Except TransportError OutcomeStatus)
  | cancelled (reply : Except TransportError OutcomeStatus) (cut : Cut)

namespace LastQuery

def reply : LastQuery → Except TransportError OutcomeStatus
  | settled verdict => .ok (.executed verdict)
  | spent reply => reply
  | cancelled reply _ => reply

def log (receipt : Receipt) (policy : PollPolicy) : LastQuery → Log
  | settled verdict =>
    queryLog receipt (.ok (.executed verdict)) ++ [⟨.count (.outcome (verdictKind verdict)), ()⟩]
  | spent reply => queryLog receipt reply ++ [⟨.count (.outcome .timeout), ()⟩]
  | cancelled reply cut => queryLog receipt reply ++ cut.log policy.pollInterval

/-- How the confirmation ends when this was the query with the given number. -/
def result (receipt : Receipt) (number : UInt32) : LastQuery → Except DeliveryError Json
  | settled verdict => verdictResult verdict
  | spent _ => .error (.timeout receipt number)
  | cancelled _ _ => .error .cancelled

/-- Which queries can end like this when `ceiling` of them are allowed. -/
def Fits (number ceiling : Nat) : LastQuery → Prop
  | settled _ => number ≤ ceiling
  | spent reply => Inconclusive reply ∧ number = ceiling
  | cancelled reply _ => Inconclusive reply ∧ number < ceiling

theorem Fits.le {number ceiling : Nat} {x : LastQuery} (h : x.Fits number ceiling) :
    number ≤ ceiling := by
  cases x with
  | settled _ => exact h
  | spent _ => exact Nat.le_of_eq h.2
  | cancelled _ _ => exact Nat.le_of_lt h.2

def isCut : LastQuery → Bool
  | cancelled _ _ => true
  | _ => false

theorem events_log (receipt : Receipt) (policy : PollPolicy) (x : LastQuery) :
    events (x.log receipt policy) =
      .asked receipt x.reply :: (if x.isCut then [.cut] else []) := by
  cases x with
  | settled _ => rfl
  | spent _ => rfl
  | cancelled reply cut =>
    unfold log
    rw [events_append, events_cut_log]
    rfl

variable {receipt : Receipt} {x : LastQuery} {number : UInt32} {ceiling : Nat}

/-- A verdict is handed back exactly when the last reply tells it. -/
theorem result_eq_verdictResult_iff (h : x.Fits number.toNat ceiling) {v : Verdict} :
    x.result receipt number = verdictResult v ↔ x.reply = .ok (.executed v) := by
  cases x with
  | settled w =>
    simp only [result, reply, Except.ok.injEq, OutcomeStatus.executed.injEq]
    exact verdictResult_injective.eq_iff
  | spent a =>
    have hne : a ≠ .ok (.executed v) := h.1.ne_executed v
    cases v <;> simpa [result, reply, verdictResult] using hne
  | cancelled a _ =>
    have hne : a ≠ .ok (.executed v) := h.1.ne_executed v
    cases v <;> simpa [result, reply, verdictResult] using hne

theorem result_eq_timeout_iff (h : x.Fits number.toNat ceiling) {r : Receipt} {n : UInt32} :
    x.result receipt number = .error (.timeout r n) ↔
      Inconclusive x.reply ∧ number.toNat = ceiling ∧ r = receipt ∧ n.toNat = number.toNat := by
  cases x with
  | settled verdict =>
    have hno : ¬ Inconclusive (.ok (.executed verdict)) := fun hv => hv.ne_executed verdict rfl
    cases verdict <;> simp [result, reply, verdictResult, hno]
  | spent reply =>
    obtain ⟨hreply, hceil⟩ : Inconclusive reply ∧ number.toNat = ceiling := h
    simp only [result, LastQuery.reply, Except.error.injEq, DeliveryError.timeout.injEq, hreply,
      hceil, true_and]
    rw [← hceil, UInt32.toNat_inj]
    exact ⟨fun ⟨hr, hn⟩ => ⟨hr.symm, hn.symm⟩, fun ⟨hr, hn⟩ => ⟨hr.symm, hn.symm⟩⟩
  | cancelled reply _ =>
    have hlt : number.toNat < ceiling := h.2
    simp [result, Nat.ne_of_lt hlt]

theorem result_eq_cancelled_iff (h : x.Fits number.toNat ceiling) :
    x.result receipt number = .error .cancelled ↔
      Inconclusive x.reply ∧ number.toNat < ceiling ∧ x.isCut = true := by
  cases x with
  | settled verdict => cases verdict <;> simp [result, isCut, verdictResult]
  | spent _ => simp [result, isCut]
  | cancelled _ _ => exact ⟨fun _ => ⟨h.1, h.2, rfl⟩, fun _ => rfl⟩

end LastQuery

/-- What one query does: it finds the verdict, it was the last one, its wait is cut, or its wait
completes and the rest follows under a budget with one query less. -/
theorem query_of_yields_confirmFrom {receipt : Receipt} {policy : PollPolicy}
    {b : AttemptBudget} {t : Log} {r : Except DeliveryError Json}
    (h : (confirmFrom receipt policy b).Yields t r) :
    (∃ last : LastQuery, t = last.log receipt policy ∧ r = last.result receipt b.record.used ∧
      match last with
      | .settled _ => True
      | .spent reply => Inconclusive reply ∧ b.record.hasRemaining = false
      | .cancelled reply _ => Inconclusive reply ∧ b.record.hasRemaining = true) ∨
    ∃ (reply : Except TransportError OutcomeStatus) (rest : Log), Inconclusive reply ∧
      b.record.hasRemaining = true ∧ t = idleLog receipt policy reply ++ rest ∧
      (confirmFrom receipt policy b.record).Yields rest r := by
  rw [confirmFrom] at h
  obtain ⟨reply, t₁, rfl, h₁⟩ := Dialogue.yields_ask.1 h
  obtain ⟨t₂, rfl, h₂⟩ := log_of_yields_counting h₁
  cases hfound : (found reply).2 with
  | some verdict =>
    obtain rfl := found_eq_some_iff.1 hfound
    cases verdict with
    | success payload =>
      obtain ⟨t₃, rfl, h₃⟩ := log_of_yields_counting h₂
      obtain ⟨rfl, rfl⟩ := Dialogue.yields_done.1 h₃
      exact .inl ⟨.settled (.success payload), rfl, rfl, trivial⟩
    | failure message =>
      obtain ⟨t₃, rfl, h₃⟩ := log_of_yields_counting h₂
      obtain ⟨rfl, rfl⟩ := Dialogue.yields_done.1 h₃
      exact .inl ⟨.settled (.failure message), rfl, rfl, trivial⟩
  | none =>
    have hreply := found_eq_none_iff.1 hfound
    simp only [hfound] at h₂
    by_cases hrem : b.record.hasRemaining = true
    · rw [if_pos hrem] at h₂
      rcases log_of_yields_wait_andThen h₂ with ⟨rest, rfl, hrest⟩ | ⟨cut, rfl, rfl⟩
      · exact .inr ⟨reply, rest, hreply, hrem, rfl, hrest⟩
      · exact .inl ⟨.cancelled reply cut, rfl, rfl, hreply, hrem⟩
    · rw [if_neg hrem] at h₂
      obtain ⟨t₃, rfl, h₃⟩ := log_of_yields_counting h₂
      obtain ⟨rfl, rfl⟩ := Dialogue.yields_done.1 h₃
      exact .inl ⟨.spent reply, rfl, rfl, hreply, Bool.eq_false_iff.2 hrem⟩

/-- The course of the queries that a budget still allows. -/
theorem course_of_yields_confirmFrom {receipt : Receipt} {policy : PollPolicy}
    {b : AttemptBudget} (hb : b.hasRemaining = true) {t : Log}
    {r : Except DeliveryError Json} (h : (confirmFrom receipt policy b).Yields t r) :
    ∃ (idle : List (Except TransportError OutcomeStatus)) (last : LastQuery) (number : UInt32),
      (∀ reply ∈ idle, Inconclusive reply) ∧
      t = idle.flatMap (idleLog receipt policy) ++ last.log receipt policy ∧
      r = last.result receipt number ∧ number.toNat = b.used.toNat + idle.length + 1 ∧
      last.Fits number.toNat b.limit.toNat := by
  -- As for submissions, the count of the budget and the queries in the log add up.
  induction b using confirmFrom.induct generalizing t with
  | case1 b ih =>
    have hused := AttemptBudget.toNat_used_record_of_hasRemaining hb
    have hlt := (AttemptBudget.hasRemaining_iff b).1 hb
    rcases query_of_yields_confirmFrom h with
      ⟨last, rfl, rfl, hlast⟩ | ⟨reply, rest, hreply, hrem, rfl, hrest⟩
    · refine ⟨[], last, b.record.used, by simp, rfl, rfl, by simpa using hused, ?_⟩
      have hrem := AttemptBudget.hasRemaining_iff b.record
      rw [AttemptBudget.limit_record] at hrem
      cases last with
      | settled _ => exact hused ▸ hlt
      | spent reply =>
        have hnot : ¬ b.record.used.toNat < b.limit.toNat := by simpa [hlast.2] using hrem
        exact ⟨hlast.1, by omega⟩
      | cancelled reply _ => exact ⟨hlast.1, hrem.1 hlast.2⟩
    · obtain ⟨idle, last, number, hidle, rfl, rfl, hnum, hfits⟩ := ih hrem hrem hrest
      refine ⟨reply :: idle, last, number, ?_, by simp, rfl, ?_, hfits⟩
      · intro a ha
        rcases List.mem_cons.1 ha with rfl | ha
        · exact hreply
        · exact hidle a ha
      · rw [hnum, hused, List.length_cons]
        omega

theorem course_of_yields_confirm {receipt : Receipt} {policy : PollPolicy} {t : Log}
    {r : Except DeliveryError Json} (h : (confirm receipt policy).Yields t r) :
    ∃ (idle : List (Except TransportError OutcomeStatus)) (last : LastQuery) (number : UInt32),
      (∀ reply ∈ idle, Inconclusive reply) ∧
      t = idle.flatMap (idleLog receipt policy) ++ last.log receipt policy ∧
      r = last.result receipt number ∧ number.toNat = idle.length + 1 ∧
      last.Fits number.toNat (max 1 policy.maxPolls.toNat) := by
  obtain ⟨idle, last, number, hidle, ht, hr, hnum, hfits⟩ :=
    course_of_yields_confirmFrom (AttemptBudget.hasRemaining_ofLimit _) h
  rw [AttemptBudget.toNat_limit_ofLimit] at hfits
  exact ⟨idle, last, number, hidle, ht, hr, by simpa [AttemptBudget.ofLimit] using hnum, hfits⟩

end Courier.Relay
