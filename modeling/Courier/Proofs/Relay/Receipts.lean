import Courier.Proofs.Relay.Call
import Courier.Proofs.Relay.Confirm
import Courier.Proofs.Relay.Script

/-!
What is told of a request once it is accepted. A success and a timeout name its receipt. The
failure that the ledger reported and a cancellation do not, and from these alone no one can tell
which request they are about.
-/
namespace Courier.Relay

theorem mem_of_asked_mem_events {l : Log} {receipt : Receipt}
    {reply : Except TransportError OutcomeStatus} (h : .asked receipt reply ∈ events l) :
    (⟨.outcome receipt, reply⟩ : (q : Question) × Answer q) ∈ l := by
  obtain ⟨⟨q, a⟩, he, hevent⟩ := List.mem_filterMap.1 h
  cases q with
  | outcome receipt' =>
    cases hevent
    exact he
  | submit | draw | count => cases hevent
  | raised | sleep => cases a <;> cases hevent

theorem mem_of_cut_mem_events {l : Log} (h : .cut ∈ events l) :
    (⟨.raised, true⟩ : (q : Question) × Answer q) ∈ l ∨
      ∃ time, (⟨.sleep time, .cut⟩ : (q : Question) × Answer q) ∈ l := by
  obtain ⟨⟨q, a⟩, he, hevent⟩ := List.mem_filterMap.1 h
  cases q with
  | raised =>
    cases a with
    | true => exact .inl he
    | false => cases hevent
  | sleep time =>
    cases a with
    | cut => exact .inr ⟨time, he⟩
    | elapsed => cases hevent
  | submit | outcome | draw | count => cases hevent

theorem result_of_accepted {request q : Request} {policy : SubmitPolicy} {l : Log}
    {r : Except DeliveryError Receipt} {receipt : Receipt}
    (h : (call request policy).Yields l r) (haccepted : .submitted q (.ok receipt) ∈ events l) :
    r = .ok receipt := by
  obtain ⟨retries, last, number, rfl, rfl, -, -⟩ := course_of_yields_call h
  rw [events_append, events_flatMap, LastAttempt.events_log, List.mem_append] at haccepted
  rcases haccepted with hretry | hlast
  · obtain ⟨x, -, hx⟩ := List.mem_flatMap.1 hretry
    simp [Retry.log, rejectedLog, elapsedLog, events, Event.ofEntry?] at hx
  · refine LastAttempt.result_eq_ok_iff.2 ?_
    rcases List.mem_cons.1 hlast with heq | hcut
    · exact (Event.submitted.inj heq).2.symm
    · split at hcut <;> simp at hcut

/-- Every way in which a confirmation ends: with the verdict that a query found, with a timeout
that names the receipt, or cut by shutdown. Nothing is submitted meanwhile. -/
theorem ending_of_yields_confirm {receipt : Receipt} {policy : PollPolicy} {l : Log}
    {r : Except DeliveryError Json} (h : (confirm receipt policy).Yields l r) :
    (∀ request reply, .submitted request reply ∉ events l) ∧
      ((∃ verdict, r = verdictResult verdict ∧
          .asked receipt (.ok (.executed verdict)) ∈ events l) ∨
        (∃ polls, r = .error (.timeout receipt polls)) ∨
        r = .error .cancelled ∧ .cut ∈ events l) := by
  obtain ⟨idle, last, number, -, rfl, rfl, -, -⟩ := course_of_yields_confirm h
  rw [events_append, events_flatMap, LastQuery.events_log]
  constructor
  · intro request reply hmem
    rcases List.mem_append.1 hmem with hidle | hlast
    · obtain ⟨x, -, hx⟩ := List.mem_flatMap.1 hidle
      simp [idleLog, queryLog, elapsedLog, events, Event.ofEntry?] at hx
    · split at hlast <;> simp at hlast
  · cases last with
    | settled verdict => exact .inl ⟨verdict, rfl, by simp [LastQuery.reply]⟩
    | spent reply => exact .inr (.inl ⟨number, rfl⟩)
    | cancelled reply cut => exact .inr (.inr ⟨rfl, by simp [LastQuery.isCut]⟩)

theorem ending_of_yields_execute {request q : Request} {policies : RelayPolicies} {l : Log}
    {r : Except DeliveryError Execution} {receipt : Receipt}
    (h : (execute request policies).Yields l r)
    (haccepted : .submitted q (.ok receipt) ∈ events l) :
    (∃ payload, r = .ok ⟨receipt, payload⟩) ∨ (∃ polls, r = .error (.timeout receipt polls)) ∨
      (∃ message, r = .error (.execution message) ∧
        .asked receipt (.ok (.executed (.failure message))) ∈ events l) ∨
      r = .error .cancelled ∧ .cut ∈ events l := by
  rcases Dialogue.yields_andThen.1 h with ⟨u, v, receipt', rfl, hu, hv⟩ | ⟨e, rfl, he⟩
  · rw [events_append, List.mem_append] at haccepted
    rcases Dialogue.yields_andThen.1 hv with ⟨v, w, payload, rfl, he, hw⟩ | ⟨e, rfl, he⟩
    · obtain ⟨rfl, rfl⟩ := Dialogue.yields_done.1 hw
      rw [List.append_nil] at haccepted
      have hfirst := haccepted.resolve_right ((ending_of_yields_confirm he).1 q _)
      obtain rfl : receipt' = receipt := by simpa using result_of_accepted hu hfirst
      exact .inl ⟨payload, rfl⟩
    · obtain ⟨hnone, hend⟩ := ending_of_yields_confirm he
      have hfirst := haccepted.resolve_right (hnone q _)
      obtain rfl : receipt' = receipt := by simpa using result_of_accepted hu hfirst
      rw [events_append]
      rcases hend with ⟨verdict, hverdict, hasked⟩ | ⟨polls, hpolls⟩ | ⟨hcancelled, hcut⟩
      · cases verdict with
        | success payload => cases hverdict
        | failure message =>
          cases hverdict
          exact .inr (.inr (.inl ⟨message, rfl, List.mem_append_right _ hasked⟩))
      · cases hpolls
        exact .inr (.inl ⟨polls, rfl⟩)
      · cases hcancelled
        exact .inr (.inr (.inr ⟨rfl, List.mem_append_right _ hcut⟩))
  · cases result_of_accepted he haccepted

/-- Some function finds the receipt of the accepted attempt in every outcome of a kind. -/
def Identifies (request : Request) (policies : RelayPolicies)
    (kind : Except DeliveryError Execution → Prop) : Prop :=
  ∃ identify : Except DeliveryError Execution → Receipt, ∀ (x : Script) (q : Request)
    (receipt : Receipt),
    let outcome := ((execute request policies).run Script.answer x).1
    .submitted q (.ok receipt) ∈ events ((execute request policies).transcript Script.answer x) →
    kind outcome → identify outcome = receipt

/-- A script that accepts a request, always finds the same, and cuts the first wait. -/
def Script.interrupted (id : String) (status : OutcomeStatus) : Script where
  submission _ := .ok ⟨id⟩
  outcome _ := .ok status
  word _ := 0
  raised _ := true
  waking _ := .cut

theorem call_interrupted (request : Request) (id : String) (status : OutcomeStatus) :
    (call request .default).run Script.answer (.interrupted id status) =
        (.ok ⟨id⟩, .interrupted id status) ∧
      .submitted request (.ok ⟨id⟩) ∈
        events ((call request .default).transcript Script.answer (.interrupted id status)) := by
  unfold call
  rw [callFrom.eq_1]
  exact ⟨rfl, List.mem_cons_self⟩

theorem execute_interrupted (request : Request) (id : String) (status : OutcomeStatus) :
    ((execute request ⟨.default, .default⟩).run Script.answer (.interrupted id status)).1 =
      match status with
      | .pending => .error .cancelled
      | .executed (.success payload) => .ok ⟨⟨id⟩, payload⟩
      | .executed (.failure message) => .error (.execution message) := by
  unfold execute Dialogue.andThen
  rw [Dialogue.run_bind, (call_interrupted request id status).1]
  dsimp only
  rw [Dialogue.run_bind]
  unfold confirm
  rw [confirmFrom.eq_1]
  rcases status with _ | _ | _ <;> rfl

theorem accepted_interrupted (request : Request) (id : String) (status : OutcomeStatus) :
    .submitted request (.ok ⟨id⟩) ∈ events ((execute request ⟨.default, .default⟩).transcript
      Script.answer (.interrupted id status)) := by
  unfold execute Dialogue.andThen
  rw [Dialogue.transcript_bind, events_append]
  exact List.mem_append_left _ (call_interrupted request id status).2

/-- An outcome that two accepted attempts have in common tells of neither of them. -/
theorem not_identifies (request : Request) {kind : Except DeliveryError Execution → Prop}
    {r : Except DeliveryError Execution} (status : OutcomeStatus)
    (hr : ∀ id, ((execute request ⟨.default, .default⟩).run Script.answer
      (.interrupted id status)).1 = r) (hkind : kind r) :
    ¬ Identifies request ⟨.default, .default⟩ kind := by
  rintro ⟨identify, h⟩
  have hsame : ∀ id, identify r = ⟨id⟩ := by
    intro id
    have hid := h (.interrupted id status) request ⟨id⟩ (accepted_interrupted request id status)
    rw [hr] at hid
    exact hid hkind
  have hne : (⟨"r-1"⟩ : Receipt) ≠ ⟨"r-2"⟩ := by decide
  exact hne ((hsame "r-1").symm.trans (hsame "r-2"))

/-- No function finds the receipt in every outcome, neither in a cancellation nor in the failure
that the ledger reported. -/
theorem outcomes_without_receipt :
    let request := (Request.Draft.install [0]).build .default
    ¬ Identifies request ⟨.default, .default⟩ (fun _ => True) ∧
      ¬ Identifies request ⟨.default, .default⟩ (· = .error .cancelled) ∧
      ¬ Identifies request ⟨.default, .default⟩ (· = .error (.execution "User error: 65")) := by
  intro request
  have hcancelled := fun id => execute_interrupted request id .pending
  have hfailed := fun id =>
    execute_interrupted request id (.executed (.failure "User error: 65"))
  exact ⟨not_identifies request .pending hcancelled trivial,
    not_identifies request .pending hcancelled rfl,
    not_identifies request (.executed (.failure "User error: 65")) hfailed rfl⟩

end Courier.Relay
