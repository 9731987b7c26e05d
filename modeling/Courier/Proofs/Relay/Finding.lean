import Courier.Proofs.Relay.Confirm
import Courier.Proofs.Relay.Script

/-!
Confirmations under all surroundings. In what way a query finds nothing makes no difference: where
one script has no outcome yet and the other an error, the same queries and waits lead to the same
end.
-/
namespace Courier.Relay

/-- Two replies that tell the same verdict, or both none. -/
def SameFinding (a b : Except TransportError OutcomeStatus) : Prop :=
  a = b ∨ Inconclusive a ∧ Inconclusive b

theorem SameFinding.found_eq {a b : Except TransportError OutcomeStatus} (h : SameFinding a b) :
    (found a).2 = (found b).2 := by
  rcases h with rfl | ⟨ha, hb⟩
  · rfl
  · rw [found_eq_none_iff.2 ha, found_eq_none_iff.2 hb]

/-- The same event, apart from replies that find nothing in different ways. -/
def Event.Alike : Event → Event → Prop
  | .asked receipt a, .asked receipt' b => receipt = receipt' ∧ SameFinding a b
  | e, e' => e = e'

/-- Two scripts that differ only in how queries find nothing. -/
structure Script.Alike (x y : Script) : Prop where
  outcome : ∀ n, SameFinding (x.outcome n) (y.outcome n)
  raised : x.raised = y.raised
  waking : x.waking = y.waking

/-- The same value, and the same events apart from how queries find nothing. -/
def Agree {α : Type} (d d' : Relaying α) (x y : Script) : Prop :=
  (d.run Script.answer x).1 = (d'.run Script.answer y).1 ∧
    List.Forall₂ Event.Alike (events (d.transcript Script.answer x))
      (events (d'.transcript Script.answer y))

variable {α : Type} {x y : Script}

theorem agree_done (a : α) : Agree (.done a) (.done a) x y :=
  ⟨rfl, .nil⟩

/-- It does not matter what is counted. -/
theorem Agree.counting {d d' : Relaying α} (h : Agree d d' x y) (c c' : Counter) :
    Agree (counting c d) (counting c' d') x y := h

theorem agree_outcome {receipt : Receipt}
    {k k' : Except TransportError OutcomeStatus → Relaying α} (h : x.Alike y)
    (hk : ∀ x' y', x'.Alike y' → Agree (k (x.outcome 0)) (k' (y.outcome 0)) x' y') :
    Agree (.ask (.outcome receipt) k) (.ask (.outcome receipt) k') x y := by
  obtain ⟨hvalue, hevents⟩ := hk
    { x with outcome := fun n => x.outcome (n + 1) } { y with outcome := fun n => y.outcome (n + 1) }
    ⟨fun n => h.outcome (n + 1), h.raised, h.waking⟩
  exact ⟨hvalue, .cons ⟨rfl, h.outcome 0⟩ hevents⟩

theorem Event.Alike.refl (e : Event) : e.Alike e := by
  cases e with
  | asked receipt reply => exact ⟨rfl, .inl rfl⟩
  | _ => rfl

/-- A question with the same answer in both scripts. -/
theorem agree_ask {q : Question} {k k' : Answer q → Relaying α} {a : Answer q} {x' y' : Script}
    (hx : Script.answer q x = (a, x')) (hy : Script.answer q y = (a, y'))
    (h : Agree (k a) (k' a) x' y') : Agree (.ask q k) (.ask q k') x y := by
  obtain ⟨hvalue, hevents⟩ := h
  unfold Agree Dialogue.run Dialogue.transcript
  rw [hx, hy]
  refine ⟨hvalue, ?_⟩
  unfold events at hevents ⊢
  cases he : Event.ofEntry? ⟨q, a⟩ with
  | none =>
    rw [List.filterMap_cons_none he, List.filterMap_cons_none he]
    exact hevents
  | some e =>
    rw [List.filterMap_cons_some he, List.filterMap_cons_some he]
    exact .cons (.refl e) hevents

theorem agree_wait_andThen {time : Duration} {d d' : Relaying (Except DeliveryError α)}
    (h : x.Alike y) (hd : ∀ x' y', x'.Alike y' → Agree d d' x' y') :
    Agree ((wait time).andThen fun _ => d) ((wait time).andThen fun _ => d') x y := by
  rw [wait_andThen, wait_andThen]
  refine agree_ask (a := x.raised 0) rfl (by rw [h.raised]; rfl) ?_
  cases x.raised 0 with
  | true => exact agree_done _
  | false =>
    refine agree_ask (a := x.waking 0) rfl (by rw [h.waking]; rfl) ?_
    cases x.waking 0 with
    | elapsed => exact hd _ _ ⟨h.outcome, by rw [h.raised], by rw [h.waking]⟩
    | cut => exact agree_done _

theorem confirmFrom_agree (receipt : Receipt) (policy : PollPolicy) (b : AttemptBudget)
    (h : x.Alike y) : Agree (confirmFrom receipt policy b) (confirmFrom receipt policy b) x y := by
  -- The counters differ where the replies do, so the two runs are compared by their events only.
  induction b using confirmFrom.induct generalizing x y with
  | case1 b ih =>
    rw [confirmFrom]
    refine agree_outcome h fun x' y' h' => Agree.counting ?_ _ _
    rw [← (h.outcome 0).found_eq]
    cases (found (x.outcome 0)).2 with
    | some verdict =>
      cases verdict with
      | success payload => exact (agree_done _).counting _ _
      | failure message => exact (agree_done _).counting _ _
    | none =>
      by_cases hrem : b.record.hasRemaining = true
      · simp only [if_pos hrem]
        exact agree_wait_andThen h' fun _ _ h'' => ih hrem h''
      · simp only [if_neg hrem]
        exact (agree_done _).counting _ _

/-- Queries that found nothing, each with the completed wait after it. -/
def idleQueries (receipt : Receipt) (policy : PollPolicy)
    (idle : List (Except TransportError OutcomeStatus)) : List Event :=
  idle.flatMap fun reply => [.asked receipt reply, .waited policy.pollInterval]

theorem events_flatMap_idleLog (receipt : Receipt) (policy : PollPolicy)
    (idle : List (Except TransportError OutcomeStatus)) :
    events (idle.flatMap (idleLog receipt policy)) = idleQueries receipt policy idle := by
  rw [events_flatMap]
  rfl

/-- Whatever the node answers and whenever shutdown comes: one query at least and the limit at
most, all for the receipt, a completed wait of the interval between two of them and none
elsewhere. The first verdict is the end, the limit gives a timeout, and only a wait that was cut a
cancellation. Errors of queries count like outcomes that are not there yet. -/
theorem confirm_course (receipt : Receipt) (policy : PollPolicy) :
    (∀ {σ : Type} (answer : (q : Question) → σ → Answer q × σ) (s : σ),
      ∃ (idle : List (Except TransportError OutcomeStatus))
        (last : Except TransportError OutcomeStatus) (cut : Bool),
        let result := ((confirm receipt policy).run answer s).1
        let polls := idle.length + 1
        let ceiling := max 1 policy.maxPolls.toNat
        events ((confirm receipt policy).transcript answer s) =
          idleQueries receipt policy idle ++
            .asked receipt last :: (if cut then [.cut] else []) ∧
        (∀ reply ∈ idle, Inconclusive reply) ∧
        polls ≤ ceiling ∧
        (∀ payload, result = .ok payload ↔ last = .ok (.executed (.success payload))) ∧
        (∀ message, result = .error (.execution message) ↔
          last = .ok (.executed (.failure message))) ∧
        (∀ r n, result = .error (.timeout r n) ↔
          Inconclusive last ∧ polls = ceiling ∧ r = receipt ∧ n.toNat = polls) ∧
        (result = .error .cancelled ↔ Inconclusive last ∧ polls < ceiling ∧ cut = true) ∧
        (cut = true → result = .error .cancelled) ∧
        ∀ n e, result ≠ .error (.remote n e)) ∧
    ∀ x y : Script, x.Alike y → Agree (confirm receipt policy) (confirm receipt policy) x y := by
  refine ⟨?_, fun x y h => confirmFrom_agree receipt policy _ h⟩
  intro σ answer s
  obtain ⟨idle, last, number, hidle, ht, hr, hnum, hfits⟩ :=
    course_of_yields_confirm (Dialogue.yields_transcript answer (confirm receipt policy) s)
  rw [ht, hr]
  refine ⟨idle, last.reply, last.isCut, ?_⟩
  dsimp only
  rw [events_append, events_flatMap_idleLog, LastQuery.events_log, ← hnum]
  refine ⟨rfl, hidle, hfits.le, fun payload => ?_, fun message => ?_,
    fun _ _ => LastQuery.result_eq_timeout_iff hfits, LastQuery.result_eq_cancelled_iff hfits,
    ?_, ?_⟩
  · exact LastQuery.result_eq_verdictResult_iff (v := .success payload) hfits
  · exact LastQuery.result_eq_verdictResult_iff (v := .failure message) hfits
  · cases last <;> simp [LastQuery.isCut, LastQuery.result]
  · intro n e
    rcases last with ⟨_ | _⟩ | _ | _ <;> simp [LastQuery.result, verdictResult]

end Courier.Relay
