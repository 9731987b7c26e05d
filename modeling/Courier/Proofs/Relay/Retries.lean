import Courier.Proofs.Relay.Counts
import Courier.Proofs.Relay.Script

/-!
What the counter of retries tells. It goes up before the wait for the next submission, and shutdown
can still end that wait, so it exceeds the resubmissions by one for each cancelled submission.
-/
namespace Courier.Relay

def Event.isSubmitted : Event → Bool
  | .submitted _ _ => true
  | _ => false

def submissions (log : Log) : Nat :=
  (events log).countP Event.isSubmitted

theorem submissions_append (a b : Log) : submissions (a ++ b) = submissions a + submissions b := by
  unfold submissions
  rw [events_append, List.countP_append]

theorem submissions_cut_log (time : Duration) (cut : Cut) : submissions (cut.log time) = 0 := by
  cases cut <;> rfl

def isCancelled : Except DeliveryError Receipt → Bool
  | .error .cancelled => true
  | _ => false

theorem isCancelled_iff {r : Except DeliveryError Receipt} :
    isCancelled r = true ↔ r = .error .cancelled := by
  rcases r with (_ | _ | _ | _) | _ <;> simp [isCancelled]

/-- The counter of retries is the number of submissions that were not the first of their run. -/
def RetriesTold (log : Log) (runs : Nat) : Prop :=
  countOf .submitRetry log + runs = submissions log

/-- Each counted retry is followed by another submission. -/
def FollowedUp (log : Log) : Prop :=
  ∀ before after, log = before ++ ⟨.count .submitRetry, ()⟩ :: after → 0 < submissions after

/-- The counter of retries exceeds the resubmissions by the number of cancelled runs. -/
def Reckoned (log : Log) (results : List (Except DeliveryError Receipt)) : Prop :=
  countOf .submitRetry log + results.length = submissions log + results.countP isCancelled

theorem reckoned_nil : Reckoned [] [] :=
  rfl

theorem Reckoned.append {a b : Log} {rs ss : List (Except DeliveryError Receipt)}
    (ha : Reckoned a rs) (hb : Reckoned b ss) : Reckoned (a ++ b) (rs ++ ss) := by
  unfold Reckoned at *
  rw [countOf_append, submissions_append, List.length_append, List.countP_append]
  omega

theorem Reckoned.told_iff {log : Log} {results : List (Except DeliveryError Receipt)}
    (h : Reckoned log results) :
    RetriesTold log results.length ↔ .error .cancelled ∉ results := by
  have hnone : results.countP isCancelled = 0 ↔ .error .cancelled ∉ results := by
    simp only [List.countP_eq_zero, isCancelled_iff]
    exact ⟨fun hall hmem => hall _ hmem rfl, fun hmem r hr heq => hmem (heq ▸ hr)⟩
  rw [← hnone]
  unfold Reckoned at h
  unfold RetriesTold
  omega

theorem Retry.reckoned (request : Request) (policy : SubmitPolicy) (x : Retry) :
    Reckoned (x.log request policy) [] :=
  rfl

theorem reckoned_retries (request : Request) (policy : SubmitPolicy) (retries : List Retry) :
    Reckoned (retries.flatMap (Retry.log request policy)) [] := by
  induction retries with
  | nil => exact reckoned_nil
  | cons x retries ih =>
    rw [List.flatMap_cons]
    exact (x.reckoned request policy).append ih

theorem LastAttempt.reckoned (request : Request) (policy : SubmitPolicy) (x : LastAttempt)
    (number : UInt32) : Reckoned (x.log request policy) [x.result number] := by
  cases x with
  | accepted receipt => rfl
  | exhausted error => rfl
  | cancelled error word cut => cases cut <;> rfl

theorem reckoned_of_yields_call {request : Request} {policy : SubmitPolicy} {t : Log}
    {r : Except DeliveryError Receipt} (h : (call request policy).Yields t r) :
    Reckoned t [r] := by
  obtain ⟨retries, last, number, rfl, rfl, -⟩ := course_of_yields_call h
  exact (reckoned_retries request policy retries).append (last.reckoned request policy number)

/-- One submission after the other, each under a policy of its own. -/
def callEach (calls : List (Request × SubmitPolicy)) :
    Relaying (List (Except DeliveryError Receipt)) :=
  Dialogue.traverse (fun c => call c.1 c.2) calls

theorem reckoned_of_yields_callEach {calls : List (Request × SubmitPolicy)} {t : Log}
    {results : List (Except DeliveryError Receipt)} (h : (callEach calls).Yields t results) :
    Reckoned t results ∧ results.length = calls.length := by
  -- One run keeps the reckoning, so by induction a sequence of them does.
  induction calls generalizing t results with
  | nil =>
    obtain ⟨rfl, rfl⟩ := Dialogue.yields_done.1 h
    exact ⟨reckoned_nil, rfl⟩
  | cons c calls ih =>
    obtain ⟨u, v, r, rs, rfl, rfl, hu, hv⟩ := Dialogue.yields_traverse_cons.1 h
    obtain ⟨hreckoned, hlength⟩ := ih hv
    exact ⟨(reckoned_of_yields_call hu).append hreckoned, congrArg (· + 1) hlength⟩

/-- What was counted before a submission is followed by that submission. -/
theorem FollowedUp.append (a : Log) {b : Log} (hsubmitted : 0 < submissions b)
    (h : FollowedUp b) : FollowedUp (a ++ b) := by
  intro before after hsplit
  rcases List.append_eq_append_iff.1 hsplit with ⟨c, -, hb⟩ | ⟨c, ha, hrest⟩
  · exact h c after hb
  · cases c with
    | nil => exact h [] after hrest.symm
    | cons entry c =>
      have hafter : after = c ++ b := (List.cons.inj hrest).2
      rw [hafter, submissions_append]
      omega

theorem followedUp_of_countOf_eq_zero {log : Log} (h : countOf .submitRetry log = 0) :
    FollowedUp log := by
  rintro before after rfl
  have hentry : countOf .submitRetry [⟨.count .submitRetry, ()⟩] = 1 := rfl
  rw [← List.singleton_append, countOf_append, countOf_append, hentry] at h
  omega

theorem followedUp_iff_of_yields_call {request : Request} {policy : SubmitPolicy} {t : Log}
    {r : Except DeliveryError Receipt} (h : (call request policy).Yields t r) :
    FollowedUp t ↔ r ≠ .error .cancelled := by
  obtain ⟨retries, last, number, rfl, rfl, -⟩ := course_of_yields_call h
  cases last with
  | accepted receipt =>
    refine iff_of_true ?_ (by simp [LastAttempt.result])
    exact .append _ Nat.one_pos (followedUp_of_countOf_eq_zero rfl)
  | exhausted error =>
    refine iff_of_true ?_ (by simp [LastAttempt.result])
    exact .append _ Nat.one_pos (followedUp_of_countOf_eq_zero rfl)
  | cancelled error word cut =>
    refine iff_of_false (fun hfollowed => ?_) (fun hne => hne rfl)
    -- Behind the last counted retry stands only the wait that was cut.
    have hpos := hfollowed
      (retries.flatMap (Retry.log request policy) ++
        [⟨.submit request, .error error⟩, ⟨.count (.submission false), ()⟩, ⟨.draw, word⟩])
      (cut.log (pause policy word)) (by simp [LastAttempt.log, rejectedLog])
    rw [submissions_cut_log] at hpos
    exact absurd hpos (Nat.lt_irrefl 0)

/-- Whatever the node answers and whenever shutdown comes, the counter of retries and the runs add
up to the submissions and the cancelled runs. So the counter tells the resubmissions exactly when
no run was cancelled, and within a run each counted retry is followed by another submission
exactly when the run was not cancelled. -/
theorem retriesTold_iff {σ : Type} (answer : (q : Question) → σ → Answer q × σ) (s : σ) :
    (∀ calls : List (Request × SubmitPolicy),
      let log := (callEach calls).transcript answer s
      let results := ((callEach calls).run answer s).1
      countOf .submitRetry log + calls.length =
        submissions log + results.countP isCancelled ∧
      (RetriesTold log calls.length ↔ .error .cancelled ∉ results)) ∧
    ∀ request policy,
      FollowedUp ((call request policy).transcript answer s) ↔
        ((call request policy).run answer s).1 ≠ .error .cancelled := by
  refine ⟨fun calls => ?_, fun request policy =>
    followedUp_iff_of_yields_call (Dialogue.yields_transcript answer _ s)⟩
  obtain ⟨hreckoned, hlength⟩ :=
    reckoned_of_yields_callEach (Dialogue.yields_transcript answer (callEach calls) s)
  rw [← hlength]
  exact ⟨hreckoned, hreckoned.told_iff⟩

/-- The node refuses each submission, and shutdown has come by the first wait. -/
def interrupted : Script :=
  { (default : Script) with raised := fun _ => true }

/-- One retry is counted, although there is no wait and no second submission. -/
theorem not_retriesTold_interrupted :
    let request := (Request.Draft.install [0]).build .default
    let log := (callEach [(request, .default)]).transcript Script.answer interrupted
    countOf .submitRetry log = 1 ∧ submissions log = 1 ∧
      ¬ RetriesTold log 1 ∧ ¬ FollowedUp log := by
  intro request log
  have hlog : log = (LastAttempt.cancelled (.http "") 0 .before).log request .default := by
    change (callEach [(request, .default)]).transcript Script.answer interrupted = _
    unfold callEach Dialogue.traverse call
    rw [callFrom]
    rfl
  rw [hlog]
  refine ⟨rfl, rfl, fun htold => ?_, fun hfollowed => ?_⟩
  · have hequal : 1 + 1 = 1 := htold
    exact absurd hequal (by decide)
  · exact absurd (hfollowed [_, _, _] _ rfl) (by decide)

end Courier.Relay
