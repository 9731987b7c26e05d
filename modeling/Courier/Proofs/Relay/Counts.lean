import Courier.Proofs.Relay.Call
import Courier.Proofs.Relay.Confirm

/-!
What a relay counts over any sequence of submissions and confirmations: each counter agrees with
what the node answered or with what the operations gave back.
-/
namespace Courier.Relay

inductive Errand where
  | call (request : Request) (policy : SubmitPolicy)
  | confirm (receipt : Receipt) (policy : PollPolicy)

inductive Return where
  | called (result : Except DeliveryError Receipt)
  | confirmed (result : Except DeliveryError Json)

def Errand.dialogue : Errand → Relaying Return
  | .call request policy => (Relay.call request policy).bind fun r => .done (.called r)
  | .confirm receipt policy => (Relay.confirm receipt policy).bind fun r => .done (.confirmed r)

/-- The counter that an entry of a log raises. -/
def counter? : (q : Question) × Answer q → Option Counter
  | ⟨.count c, _⟩ => some c
  | _ => none

def countOf (c : Counter) (log : Log) : Nat :=
  (log.filterMap counter?).count c

theorem countOf_append (c : Counter) (a b : Log) :
    countOf c (a ++ b) = countOf c a + countOf c b := by
  unfold countOf
  rw [List.filterMap_append, List.count_append]

def Event.isSubmission (accepted : Bool) : Event → Bool
  | .submitted _ (.ok _) => accepted
  | .submitted _ (.error _) => !accepted
  | _ => false

def Event.pollStatus? : Event → Option PollStatus
  | .asked _ (.ok (.executed _)) => some .executed
  | .asked _ (.ok .pending) => some .pending
  | .asked _ (.error _) => some .error
  | _ => none

def Return.isRemote : Return → Bool
  | .called (.error (.remote _ _)) => true
  | _ => false

/-- How a confirmation ended that was not cancelled. -/
def Return.outcome? : Return → Option OutcomeKind
  | .confirmed (.ok _) => some .success
  | .confirmed (.error (.execution _)) => some .failure
  | .confirmed (.error (.timeout _ _)) => some .timeout
  | _ => none

/-- The counters agree with the answers in the log and with what the operations gave back. -/
structure Balanced (log : Log) (returns : List Return) : Prop where
  submissions : ∀ accepted,
    countOf (.submission accepted) log = (events log).countP (Event.isSubmission accepted)
  retries :
    countOf .submitRetry log + returns.countP Return.isRemote = countOf (.submission false) log
  polls : ∀ status,
    countOf (.poll status) log = (events log).countP fun e => e.pollStatus? = some status
  outcomes : ∀ kind,
    countOf (.outcome kind) log = returns.countP fun r => r.outcome? = some kind

theorem balanced_nil : Balanced [] [] :=
  ⟨fun _ => rfl, rfl, fun _ => rfl, fun _ => rfl⟩

theorem Balanced.append {a b : Log} {rs ss : List Return} (ha : Balanced a rs)
    (hb : Balanced b ss) : Balanced (a ++ b) (rs ++ ss) where
  submissions accepted := by
    rw [countOf_append, events_append, List.countP_append, ha.submissions, hb.submissions]
  retries := by
    have hra := ha.retries
    have hrb := hb.retries
    rw [countOf_append, countOf_append, List.countP_append]
    omega
  polls status := by
    rw [countOf_append, events_append, List.countP_append, ha.polls, hb.polls]
  outcomes kind := by
    rw [countOf_append, List.countP_append, ha.outcomes, hb.outcomes]

theorem balanced_flatMap {ι : Type} {f : ι → Log} {l : List ι}
    (h : ∀ i ∈ l, Balanced (f i) []) : Balanced (l.flatMap f) [] := by
  induction l with
  | nil => exact balanced_nil
  | cons i l ih =>
    rw [List.flatMap_cons]
    exact (h i List.mem_cons_self).append (ih fun j hj => h j (List.mem_cons_of_mem i hj))

theorem balanced_elapsedLog (time : Duration) : Balanced (elapsedLog time) [] := by
  refine ⟨?_, rfl, ?_, ?_⟩ <;> rintro ⟨⟩ <;> rfl

theorem Cut.balanced_called (time : Duration) (cut : Cut) :
    Balanced (cut.log time) [.called (.error .cancelled)] := by
  cases cut <;> refine ⟨?_, rfl, ?_, ?_⟩ <;> rintro ⟨⟩ <;> rfl

theorem Cut.balanced_confirmed (time : Duration) (cut : Cut) :
    Balanced (cut.log time) [.confirmed (.error .cancelled)] := by
  cases cut <;> refine ⟨?_, rfl, ?_, ?_⟩ <;> rintro ⟨⟩ <;> rfl

theorem balanced_rejectedLog (request : Request) (error : TransportError) (word : UInt64) :
    Balanced (rejectedLog request error word) [] := by
  refine ⟨?_, rfl, ?_, ?_⟩ <;> rintro ⟨⟩ <;> rfl

/-- A refusal is counted once more as a retry, or else it ends the operation. -/
theorem LastAttempt.balanced (request : Request) (policy : SubmitPolicy) (x : LastAttempt)
    (number : UInt32) : Balanced (x.log request policy) [.called (x.result number)] := by
  cases x with
  | accepted receipt => refine ⟨?_, rfl, ?_, ?_⟩ <;> rintro ⟨⟩ <;> rfl
  | exhausted error => refine ⟨?_, rfl, ?_, ?_⟩ <;> rintro ⟨⟩ <;> rfl
  | cancelled error word cut =>
    exact (balanced_rejectedLog request error word).append (cut.balanced_called _)

theorem balanced_of_yields_call {request : Request} {policy : SubmitPolicy} {t : Log}
    {r : Except DeliveryError Receipt} (h : (call request policy).Yields t r) :
    Balanced t [.called r] := by
  obtain ⟨retries, last, number, rfl, rfl, -⟩ := course_of_yields_call h
  have hretries : Balanced (retries.flatMap (Retry.log request policy)) [] :=
    balanced_flatMap fun x _ =>
      (balanced_rejectedLog request x.error x.word).append (balanced_elapsedLog _)
  exact hretries.append (last.balanced request policy number)

theorem balanced_queryLog (receipt : Receipt) (reply : Except TransportError OutcomeStatus) :
    Balanced (queryLog receipt reply) [] := by
  rcases reply with e | _ | verdict <;> refine ⟨?_, rfl, ?_, ?_⟩ <;> rintro ⟨⟩ <;> rfl

theorem balanced_outcome {kind : OutcomeKind} {r : Except DeliveryError Json}
    (h : (Return.confirmed r).outcome? = some kind) :
    Balanced [⟨.count (.outcome kind), ()⟩] [.confirmed r] where
  submissions accepted := by cases accepted <;> rfl
  retries := rfl
  polls status := by cases status <;> rfl
  outcomes k := by
    rw [List.countP_singleton, h]
    cases kind <;> cases k <;> rfl

theorem LastQuery.balanced (receipt : Receipt) (policy : PollPolicy) (x : LastQuery)
    (number : UInt32) :
    Balanced (x.log receipt policy) [.confirmed (x.result receipt number)] := by
  cases x with
  | settled verdict =>
    refine (balanced_queryLog receipt _).append (balanced_outcome ?_)
    cases verdict <;> rfl
  | spent reply => exact (balanced_queryLog receipt reply).append (balanced_outcome rfl)
  | cancelled reply cut =>
    exact (balanced_queryLog receipt reply).append (cut.balanced_confirmed _)

theorem balanced_of_yields_confirm {receipt : Receipt} {policy : PollPolicy} {t : Log}
    {r : Except DeliveryError Json} (h : (confirm receipt policy).Yields t r) :
    Balanced t [.confirmed r] := by
  obtain ⟨idle, last, number, -, rfl, rfl, -⟩ := course_of_yields_confirm h
  have hidle : Balanced (idle.flatMap (idleLog receipt policy)) [] :=
    balanced_flatMap fun reply _ =>
      (balanced_queryLog receipt reply).append (balanced_elapsedLog _)
  exact hidle.append (last.balanced receipt policy number)

theorem outcome?_of_yields_confirm {receipt : Receipt} {policy : PollPolicy} {t : Log}
    {r : Except DeliveryError Json} (h : (confirm receipt policy).Yields t r) :
    r = .error .cancelled ∨ ∃ kind, (Return.confirmed r).outcome? = some kind := by
  obtain ⟨-, last, number, -, -, rfl, -⟩ := course_of_yields_confirm h
  cases last with
  | settled verdict => cases verdict <;> exact .inr ⟨_, rfl⟩
  | spent reply => exact .inr ⟨_, rfl⟩
  | cancelled reply cut => exact .inl rfl

theorem Errand.balanced {e : Errand} {t : Log} {r : Return} (h : e.dialogue.Yields t r) :
    Balanced t [r] := by
  cases e with
  | call request policy =>
    obtain ⟨u, v, result, rfl, hu, hv⟩ := Dialogue.yields_bind.1 h
    obtain ⟨rfl, rfl⟩ := Dialogue.yields_done.1 hv
    rw [List.append_nil]
    exact balanced_of_yields_call hu
  | confirm receipt policy =>
    obtain ⟨u, v, result, rfl, hu, hv⟩ := Dialogue.yields_bind.1 h
    obtain ⟨rfl, rfl⟩ := Dialogue.yields_done.1 hv
    rw [List.append_nil]
    exact balanced_of_yields_confirm hu

/-- One operation keeps the balance, so a sequence of them does. -/
theorem balanced_of_yields_traverse {errands : List Errand} {t : Log} {returns : List Return}
    (h : (Dialogue.traverse Errand.dialogue errands).Yields t returns) : Balanced t returns := by
  induction errands generalizing t returns with
  | nil =>
    obtain ⟨rfl, rfl⟩ := Dialogue.yields_done.1 h
    exact balanced_nil
  | cons e errands ih =>
    obtain ⟨u, v, r, rs, rfl, rfl, hu, hv⟩ := Dialogue.yields_traverse_cons.1 h
    exact (e.balanced hu).append (ih hv)

/-- Whatever the node answers and whenever shutdown comes, in any sequence of submissions and
confirmations the counters agree with what happened. A confirmation that is cancelled raises no
counter of outcomes, and every other one raises exactly one of them, once. -/
theorem counters_reconcile {σ : Type} (answer : (q : Question) → σ → Answer q × σ) (s : σ) :
    (∀ errands : List Errand,
      let played := Dialogue.traverse Errand.dialogue errands
      Balanced (played.transcript answer s) (played.run answer s).1) ∧
    ∀ receipt policy,
      let result := ((confirm receipt policy).run answer s).1
      let log := (confirm receipt policy).transcript answer s
      (result = .error .cancelled ∧ ∀ kind, countOf (.outcome kind) log = 0) ∨
        result ≠ .error .cancelled ∧
          ∃ ending, ∀ kind, countOf (.outcome kind) log = if kind = ending then 1 else 0 := by
  refine ⟨fun errands => balanced_of_yields_traverse (Dialogue.yields_transcript answer _ s), ?_⟩
  intro receipt policy
  have h := Dialogue.yields_transcript answer (confirm receipt policy) s
  have houtcomes := (balanced_of_yields_confirm h).outcomes
  rcases outcome?_of_yields_confirm h with hr | ⟨ending, hending⟩
  · refine .inl ⟨hr, fun kind => ?_⟩
    rw [houtcomes, hr]
    rfl
  · refine .inr ⟨fun hr => ?_, ending, fun kind => ?_⟩
    · rw [hr] at hending
      cases hending
    · rw [houtcomes, List.countP_singleton, hending]
      cases kind <;> cases ending <;> rfl

end Courier.Relay
