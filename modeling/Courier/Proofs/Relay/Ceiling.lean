import Courier.Proofs.AttemptBudget
import Courier.Proofs.Relay.Script

/-!
Operations under a higher ceiling. Question by question they do what they do under the lower one,
until that one gives up: a result is never lost, and what the node and the clock noticed is where
the longer run begins.
-/
namespace Courier.Relay

variable {α : Type} {GaveUp : α → Prop} {d d' : Relaying α}

/-- The second dialogue asks what the first one asks, and may go on where that one gives up. -/
inductive Prolongs (GaveUp : α → Prop) : Relaying α → Relaying α → Prop where
  | done (a : α) : Prolongs GaveUp (.done a) (.done a)
  | ask {q : Question} {next next' : Answer q → Relaying α}
      (h : ∀ answer, Prolongs GaveUp (next answer) (next' answer)) :
      Prolongs GaveUp (.ask q next) (.ask q next')
  | further {a : α} (h : GaveUp a) (d : Relaying α) : Prolongs GaveUp (.done a) d
  /-- Giving up may be counted. -/
  | counted {a : α} (h : GaveUp a) (c : Counter) (d : Relaying α) :
      Prolongs GaveUp (counting c (.done a)) d

theorem events_cons_prefix (e : (q : Question) × Answer q) {a b : Log}
    (h : events a <+: events b) : events (e :: a) <+: events (e :: b) := by
  rw [← List.singleton_append, ← List.singleton_append (l := b), events_append, events_append]
  exact (List.prefix_append_right_inj _).2 h

/-- Against the same surroundings the two runs are the same, or the first one gives up and the
second one begins like it. -/
theorem Prolongs.runs {σ : Type} (h : Prolongs GaveUp d d')
    (answer : (q : Question) → σ → Answer q × σ) (s : σ) :
    (d'.run answer s).1 = (d.run answer s).1 ∧
        d'.transcript answer s = d.transcript answer s ∨
      GaveUp (d.run answer s).1 ∧
        events (d.transcript answer s) <+: events (d'.transcript answer s) := by
  induction h generalizing s with
  | done a => exact .inl ⟨rfl, rfl⟩
  | @ask q next next' h ih =>
    rcases ih (answer q s).1 (answer q s).2 with ⟨hvalue, hlog⟩ | ⟨hgave, hprefix⟩
    · exact .inl ⟨hvalue, congrArg _ hlog⟩
    · exact .inr ⟨hgave, events_cons_prefix _ hprefix⟩
  | further h d => exact .inr ⟨h, List.nil_prefix⟩
  | counted h c d => exact .inr ⟨h, List.nil_prefix⟩

theorem Prolongs.events_prefix {σ : Type} (h : Prolongs GaveUp d d')
    (answer : (q : Question) → σ → Answer q × σ) (s : σ) :
    events (d.transcript answer s) <+: events (d'.transcript answer s) := by
  rcases h.runs answer s with ⟨-, hlog⟩ | ⟨-, hprefix⟩
  · exact hlog ▸ List.prefix_rfl
  · exact hprefix

/-- A run that does not give up is kept as it is. -/
theorem Prolongs.keeps {σ : Type} (h : Prolongs GaveUp d d')
    {answer : (q : Question) → σ → Answer q × σ} {s : σ} {a : α}
    (ha : (d.run answer s).1 = a) (hkept : ¬ GaveUp a) :
    (d'.run answer s).1 = a ∧
      events (d'.transcript answer s) = events (d.transcript answer s) := by
  rcases h.runs answer s with ⟨hvalue, hlog⟩ | ⟨hgave, -⟩
  · exact ⟨hvalue.trans ha, congrArg events hlog⟩
  · exact absurd (ha ▸ hgave) hkept

theorem prolongs_wait_andThen {GaveUp : Except DeliveryError α → Prop} {time : Duration}
    {k k' : Unit → Relaying (Except DeliveryError α)} (h : Prolongs GaveUp (k ()) (k' ())) :
    Prolongs GaveUp ((wait time).andThen k) ((wait time).andThen k') := by
  rw [wait_andThen, wait_andThen]
  refine .ask fun up => ?_
  cases up with
  | true => exact .done _
  | false =>
    refine .ask fun waking => ?_
    cases waking with
    | elapsed => exact h
    | cut => exact .done _

def AttemptsSpent (r : Except DeliveryError Receipt) : Prop :=
  ∃ attempts source, r = .error (.remote attempts source)

def PollsSpent (r : Except DeliveryError Json) : Prop :=
  ∃ receipt polls, r = .error (.timeout receipt polls)

theorem prolongs_callFrom (request : Request) (policy : SubmitPolicy) (ceiling : UInt32)
    {b c : AttemptBudget} (h : b.Within c) :
    Prolongs AttemptsSpent (callFrom request policy b)
      (callFrom request (policy.withMaxAttempts ceiling) c) := by
  -- The two loops are in step as long as the lower budget has attempts left.
  induction b using callFrom.induct generalizing c with
  | case1 b ih =>
    rw [callFrom.eq_1 request policy b, callFrom.eq_1 request _ c]
    refine .ask fun reply => ?_
    cases reply with
    | ok receipt => exact .ask fun _ => .done _
    | error e =>
      refine .ask fun _ => ?_
      by_cases hrem : b.record.hasRemaining = true
      · rw [if_pos hrem, if_pos (h.record.hasRemaining hrem)]
        exact .ask fun word => .ask fun _ => prolongs_wait_andThen (ih hrem h.record)
      · rw [if_neg hrem]
        exact .further ⟨_, _, rfl⟩ _

theorem prolongs_confirmFrom (receipt : Receipt) (policy : PollPolicy) (ceiling : UInt32)
    {b c : AttemptBudget} (h : b.Within c) :
    Prolongs PollsSpent (confirmFrom receipt policy b)
      (confirmFrom receipt { policy with maxPolls := ceiling } c) := by
  induction b using confirmFrom.induct generalizing c with
  | case1 b ih =>
    rw [confirmFrom.eq_1 receipt policy b, confirmFrom.eq_1 receipt _ c]
    refine .ask fun reply => .ask fun _ => ?_
    cases (found reply).2 with
    | some verdict => cases verdict <;> exact .ask fun _ => .done _
    | none =>
      by_cases hrem : b.record.hasRemaining = true
      · simp only [if_pos hrem, if_pos (h.record.hasRemaining hrem)]
        exact prolongs_wait_andThen (ih hrem h.record)
      · simp only [if_neg hrem]
        exact .counted ⟨_, _, rfl⟩ _ _

/-- Against the same surroundings a higher ceiling keeps every receipt and every verdict, with the
same calls on the node and the same waits; and whatever comes of the two runs, the lower one is
the beginning of the higher one. -/
theorem raised_ceiling_extends {σ : Type} (answer : (q : Question) → σ → Answer q × σ) (s : σ) :
    (∀ (request : Request) (policy : SubmitPolicy) (ceiling : UInt32),
      policy.maxAttempts ≤ ceiling →
      let low := call request policy
      let high := call request (policy.withMaxAttempts ceiling)
      (∀ receipt, (low.run answer s).1 = .ok receipt →
        (high.run answer s).1 = .ok receipt ∧
          events (high.transcript answer s) = events (low.transcript answer s)) ∧
      events (low.transcript answer s) <+: events (high.transcript answer s)) ∧
    ∀ (receipt : Receipt) (policy : PollPolicy) (ceiling : UInt32), policy.maxPolls ≤ ceiling →
      let low := confirm receipt policy
      let high := confirm receipt { policy with maxPolls := ceiling }
      (∀ r, (∃ payload, r = .ok payload) ∨ (∃ message, r = .error (.execution message)) →
        (low.run answer s).1 = r → (high.run answer s).1 = r ∧
          events (high.transcript answer s) = events (low.transcript answer s)) ∧
      events (low.transcript answer s) <+: events (high.transcript answer s) := by
  refine ⟨fun request policy ceiling hle => ?_, fun receipt policy ceiling hle => ?_⟩
  · have h := prolongs_callFrom request policy ceiling (AttemptBudget.within_ofLimit hle)
    refine ⟨fun receipt hlow => h.keeps hlow ?_, h.events_prefix answer s⟩
    rintro ⟨_, _, hspent⟩
    cases hspent
  · have h := prolongs_confirmFrom receipt policy ceiling (AttemptBudget.within_ofLimit hle)
    refine ⟨fun r hr hlow => h.keeps hlow ?_, h.events_prefix answer s⟩
    rintro ⟨_, _, rfl⟩
    rcases hr with ⟨_, hr⟩ | ⟨_, hr⟩ <;> cases hr

/-- A script whose second submission is accepted and whose second query finds a success. -/
def Script.secondTime : Script where
  submission n := if n = 0 then .error (.http "down") else .ok ⟨"r"⟩
  outcome n := if n = 0 then .ok .pending else .ok (.executed (.success .null))
  word _ := 0
  raised _ := false
  waking _ := .elapsed

theorem raised_ceiling_extends_secondTime :
    let request := (Request.Draft.install [0]).build .default
    SubmitPolicy.default.maxAttempts ≤ 7 ∧
    ((call request .default).run Script.answer .secondTime).1 = .ok ⟨"r"⟩ ∧
    ((call request (SubmitPolicy.default.withMaxAttempts 7)).run Script.answer
      .secondTime).1 = .ok ⟨"r"⟩ ∧
    PollPolicy.default.maxPolls ≤ 400 ∧
    ((confirm ⟨"r"⟩ .default).run Script.answer .secondTime).1 = .ok .null ∧
    ((confirm ⟨"r"⟩ { PollPolicy.default with maxPolls := 400 }).run Script.answer
      .secondTime).1 = .ok .null := by
  intro request
  have hattempts : SubmitPolicy.default.maxAttempts ≤ 7 := by decide
  have hpolls : PollPolicy.default.maxPolls ≤ 400 := by decide
  have hcall : ((call request .default).run Script.answer .secondTime).1 = .ok ⟨"r"⟩ := by
    unfold call
    rw [callFrom.eq_1]
    simp only [Dialogue.run, counting, Script.answer, Script.secondTime, if_true]
    rw [if_pos (by decide)]
    simp only [Dialogue.run, wait_andThen, Script.answer]
    rw [callFrom.eq_1]
    rfl
  have hconfirm :
      ((confirm ⟨"r"⟩ .default).run Script.answer .secondTime).1 = .ok .null := by
    unfold confirm
    rw [confirmFrom.eq_1]
    simp only [Dialogue.run, counting, Script.answer, Script.secondTime, if_true, found]
    rw [if_pos (by decide)]
    simp only [Dialogue.run, wait_andThen, Script.answer]
    rw [confirmFrom.eq_1]
    rfl
  have h := raised_ceiling_extends Script.answer .secondTime
  exact ⟨hattempts, hcall, ((h.1 request _ 7 hattempts).1 _ hcall).1, hpolls, hconfirm,
    ((h.2 ⟨"r"⟩ _ 400 hpolls).1 _ (.inl ⟨_, rfl⟩) hconfirm).1⟩

end Courier.Relay
