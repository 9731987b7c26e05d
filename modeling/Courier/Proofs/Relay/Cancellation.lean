import Courier.Proofs.Relay.Call
import Courier.Proofs.Relay.Heed
import Courier.Proofs.Relay.SideBySide

/-!
Shutdown at any moment of any interleaving. After it a dialogue calls on the node once at most, or
twice where it submits and confirms. It goes to sleep no more either, unless a wait had found its
signal down and was about to sleep just then. Without shutdown nothing is cancelled, so a signal
whose channel has lost its coordinators, or never had any, cancels nothing.
-/
namespace Courier.Relay

variable {α : Type}

/-- With its signal up, the dialogue calls on the node at most this often and begins no sleep. -/
def Standing.EndsWithin : Standing α → Nat → Prop
  | .free d, n => Relay.WakesWithin d n
  | .calling _ next, n => ∀ answer, Relay.EndsWithin (next answer) n
  | .asleep _ next _, n => ∀ waking, Relay.EndsWithin (next waking) n

def Standing.Heeds (n : Nat) : Standing α → Prop
  | .free d => Relay.Heeds n d
  | .calling _ next => ∀ answer, Obeys n n (next answer)
  | .asleep _ next _ => ∀ waking, Obeys n n (next waking)

theorem Standing.Heeds.endsWithin {x : Standing α} {n : Nat} (h : x.Heeds n) :
    x.EndsWithin n := by
  cases x with
  | free d => exact Relay.Heeds.wakesWithin h
  | calling q next => exact fun answer => (h answer).endsWithin
  | asleep time next looked => exact fun waking => (h waking).endsWithin

theorem Standing.Heeds.move {up : Bool} {x y : Standing α} {act : Act} {n : Nat}
    (hm : Move up x act y) (h : x.Heeds n) : y.Heeds n := by
  cases hm with
  | submit | outcome => exact fun reply => ⟨(h.1.2 reply).mono (Nat.sub_le n 1), h.2 reply⟩
  | reply answer => exact (h answer).heeds
  | draw word => exact h.2 word
  | count => exact h.2 ()
  | check => exact h.2 up
  | lieDown => exact fun waking => ⟨h.1 waking, h.2 waking⟩
  | cut _ => exact (h .cut).heeds
  | down _ => exact h
  | elapsed => exact (h .elapsed).heeds
  | pending => exact h

def Act.isCall : Act → Bool
  | .begin _ => true
  | _ => false

def Act.liesDown : Act → Bool
  | .lieDown _ => true
  | _ => false

/-- Whether a sleep looks at its sleeper. -/
def Act.isTurn : Act → Bool
  | .turn _ => true
  | _ => false

/-- Whether a wait has found its signal down and comes to its sleep next. -/
def Standing.checked : Standing α → Bool
  | .free (.ask (.sleep _) _) => true
  | _ => false

/-- Whether a sleep has looked at its signal and comes to its sleeper next. -/
def Standing.looked : Standing α → Bool
  | .asleep _ _ b => b
  | _ => false

/-- A dialogue that is to begin no sleep is not about to begin one. -/
theorem EndsWithin.standing {d : Relaying α} {n : Nat} (h : EndsWithin d n) :
    (Standing.free d).EndsWithin n ∧ (Standing.free d).checked = false := by
  refine ⟨h.wakesWithin, ?_⟩
  cases d with
  | done a => rfl
  | ask q next =>
    cases q with
    | sleep time => exact h.elim
    | _ => rfl

/-- One step with the signal up. A call uses up one of those that are left. Only a wait that has
found its signal down begins a sleep, and only a sleep that has looked at its signal comes to its
sleeper. -/
theorem Move.of_up {x y : Standing α} {act : Act} {n : Nat} (hm : Move true x act y)
    (h : x.EndsWithin n) :
    act.isCall.toNat ≤ n ∧ y.EndsWithin (n - act.isCall.toNat) ∧
      act.liesDown.toNat + y.checked.toNat ≤ x.checked.toNat ∧
      act.isTurn.toNat + y.looked.toNat ≤ x.looked.toNat := by
  -- Most steps are none of the three and lead to a free dialogue.
  have hfree : ∀ {d : Relaying α}, EndsWithin d n →
      0 ≤ n ∧ (Standing.free d).EndsWithin (n - 0) ∧
        0 + (Standing.free d).checked.toNat ≤ 0 ∧ 0 + 0 ≤ 0 := by
    intro d hd
    obtain ⟨hends, hchecked⟩ := hd.standing
    rw [hchecked]
    exact ⟨Nat.zero_le n, hends, Nat.le_refl 0, Nat.le_refl 0⟩
  cases hm with
  | submit | outcome => exact ⟨h.1, h.2, Nat.le_refl 0, Nat.le_refl 0⟩
  | reply answer => exact hfree (h answer)
  | draw word => exact hfree (h word)
  | count | check => exact hfree h
  | lieDown => exact ⟨Nat.zero_le n, h, Nat.le_refl 1, Nat.le_refl 0⟩
  | cut _ => exact hfree (h .cut)
  | down hup => cases hup
  | elapsed =>
    obtain ⟨hcall, hends, hchecked, -⟩ := hfree (h .elapsed)
    exact ⟨hcall, hends, hchecked, Nat.le_refl 1⟩
  | pending => exact ⟨Nat.zero_le n, h, Nat.le_refl 0, Nat.le_refl 1⟩

theorem Moves.bounds {x y : Standing α} {acts : List Act} {n : Nat} (hm : Moves x acts y)
    (h : x.EndsWithin n) :
    acts.countP Act.isCall ≤ n ∧ acts.countP Act.liesDown ≤ x.checked.toNat ∧
      acts.countP Act.isTurn ≤ x.looked.toNat := by
  induction hm generalizing n with
  | nil => exact ⟨Nat.zero_le n, Nat.zero_le _, Nat.zero_le _⟩
  | @cons x y z act acts hstep _ ih =>
    obtain ⟨hcall, hy, hsleep, hturn⟩ := hstep.of_up h
    obtain ⟨ihcall, ihsleep, ihturn⟩ := ih hy
    -- What the first act used up is no longer left to the others.
    rw [List.countP_cons, List.countP_cons, List.countP_cons]
    refine ⟨?_, ?_, ?_⟩
    · cases hc : act.isCall <;> simp [hc] at hcall ihcall ⊢ <;> omega
    · cases hs : act.liesDown <;> simp [hs] at hsleep ihsleep ⊢ <;> omega
    · cases ht : act.isTurn <;> simp [ht] at hturn ihturn ⊢ <;> omega

/-- From whatever instant at which a coordinator of the relay's channel is triggered, and whatever
node, sleepers and other dialogues do: how far a dialogue had come at that instant and what it does
from there are always so. -/
def FromTrigger (ds : List (Relaying α)) (P : Standing α → List Act → Prop) : Prop :=
  ∀ (board : Switchboard) (channel : Nat) (before after : List Happening) (owner : String)
    (s s' : Scene α), Scene.Steps channel (.start ds board) before s →
    s.board.owner? owner = some channel →
    Scene.Steps channel s (.outside (.trigger owner) :: after) s' →
    ∀ who x, s.standings[who]? = some x → P x (actsOf who after)

/-- From the trigger on, each dialogue begins at most `n` calls on the node. A sleep begins with its
first step, `lieDown`, and comes to its sleeper only after it has looked at its signal. So a sleep
begins from then on only in a wait that had found its signal down and had not come to its sleep yet,
and a sleeper is looked at only in a sleep that had looked at its signal before, and once. A sleep
that begins after the trigger therefore ends without its sleeper. -/
def HeedsShutdown (n : Nat) (ds : List (Relaying α)) : Prop :=
  FromTrigger ds fun x acts =>
    acts.countP Act.isCall ≤ n ∧ acts.countP Act.liesDown ≤ x.checked.toNat ∧
      acts.countP Act.isTurn ≤ x.looked.toNat

/-- No sleep at all begins from the trigger on. -/
def SleepsNoMore (ds : List (Relaying α)) : Prop :=
  FromTrigger ds fun _ acts => acts.countP Act.liesDown = 0

/-- No sleeper at all is looked at from the trigger on. -/
def LeavesSleepers (ds : List (Relaying α)) : Prop :=
  FromTrigger ds fun _ acts => acts.countP Act.isTurn = 0

theorem heedsShutdown_of_heeds {n : Nat} {ds : List (Relaying α)} (h : ∀ d ∈ ds, Heeds n d) :
    HeedsShutdown n ds := by
  intro board channel before after owner s s' hbefore howner hafter who x hx
  have hstart : ∀ y ∈ (Scene.start ds board).standings, y.Heeds n := by
    intro y hy
    obtain ⟨d, hd, rfl⟩ := List.mem_map.1 hy
    exact h d hd
  have hall := hbefore.forall_standings (fun _ _ _ _ hm => Standing.Heeds.move hm) hstart
  cases hafter with
  | cons htrigger hrest =>
    cases htrigger with
    | outside =>
      have hup : (s.board.step (.trigger owner)).raised channel = true :=
        Switchboard.raised_step_iff.2 (.inr ⟨owner, rfl, howner⟩)
      obtain ⟨y, -, hmoves⟩ := hrest.moves hup hx
      exact hmoves.bounds (hall x (List.mem_of_getElem? hx)).endsWithin

theorem Heeds.heedsShutdown {n : Nat} {d : Relaying α} (h : Heeds n d) : HeedsShutdown n [d] :=
  heedsShutdown_of_heeds (List.forall_mem_singleton.2 h)

/-- A board with one coordinator, whose channel is the first. -/
def oneOwner : Switchboard :=
  Switchboard.empty.step (.create "owner")

theorem not_heedsShutdown_zero {d : Relaying α} {ds : List (Relaying α)} {q : Question}
    {x : Standing α} (hbegin : ∀ up, Move up (.free d) (.begin q) x) :
    ¬ HeedsShutdown 0 (d :: ds) := by
  intro h
  have hrun : Scene.Steps 0 (.start (d :: ds) oneOwner)
      [.outside (.trigger "owner"), .inside 0 (.begin q)] _ :=
    .cons (.outside _) (.cons (.inside rfl (hbegin _)) .nil)
  obtain ⟨hcalls, -⟩ := h oneOwner 0 [] _ "owner" _ _ .nil rfl hrun 0 _ rfl
  simp [actsOf, Act.isCall] at hcalls

/-- Shutdown from the start does not keep a submission from being tried once. -/
theorem call_not_heedsShutdown_zero (request : Request) (policy : SubmitPolicy) :
    ¬ HeedsShutdown 0 [call request policy] := by
  unfold call
  rw [callFrom]
  exact not_heedsShutdown_zero fun _ => .submit

theorem confirmEach_not_heedsShutdown_zero (receipt : Receipt) (receipts : List Receipt)
    (policy : PollPolicy) : ¬ HeedsShutdown 0 (confirmEach (receipt :: receipts) policy) := by
  unfold confirmEach confirm
  rw [List.map_cons, confirmFrom]
  exact not_heedsShutdown_zero fun _ => .outcome

theorem execute_not_heedsShutdown_one (request : Request) (policies : RelayPolicies) :
    ¬ HeedsShutdown 1 [execute request policies] := by
  obtain ⟨k, hconfirm⟩ : ∃ k, confirm ⟨""⟩ policies.poll = .ask (.outcome ⟨""⟩) k :=
    ⟨_, by rw [confirm, confirmFrom]⟩
  obtain ⟨next, hsubmit, next', hquery⟩ : ∃ next,
      execute request policies = .ask (.submit request) next ∧ ∃ next', next (.ok ⟨""⟩) =
        .ask (.count (.submission true)) fun _ => .ask (.outcome ⟨""⟩) next' := by
    unfold execute call
    rw [callFrom]
    refine ⟨_, rfl, fun reply => (k reply).andThen fun payload => .done (.ok ⟨⟨""⟩, payload⟩), ?_⟩
    change Dialogue.ask _ (fun _ => (confirm ⟨""⟩ policies.poll).andThen _) = _
    rw [hconfirm]
    rfl
  rw [hsubmit]
  intro h
  have hrun : Scene.Steps 0 (.start [.ask (.submit request) next] oneOwner)
      [.outside (.trigger "owner"), .inside 0 (.begin (.submit request)),
        .inside 0 (.reply (.submit request) (.ok ⟨""⟩)), .inside 0 (.count (.submission true)),
        .inside 0 (.begin (.outcome ⟨""⟩))]
      ⟨[.calling (.outcome ⟨""⟩) next'], oneOwner.step (.trigger "owner")⟩ := by
    refine .cons (.outside _) (.cons (.inside rfl .submit) (.cons (.inside rfl (.reply _)) ?_))
    rw [hquery]
    exact .cons (.inside rfl .count) (.cons (.inside rfl .outcome) .nil)
  obtain ⟨hcalls, -⟩ := h oneOwner 0 [] _ "owner" _ _ .nil rfl hrun 0 _ rfl
  simp [actsOf, Act.isCall, List.countP_cons] at hcalls

/-- A trigger between the check of a wait and its sleep does not keep the sleep from beginning, and
one between the look of a sleep at its signal and its sleeper does not keep the sleeper from being
looked at. -/
theorem not_sleepsNoMore {ds : List (Relaying α)} {before : List Happening} {s : Scene α}
    {time : Duration} {next : Waking → Relaying α}
    (hrun : Scene.Steps 0 (.start ds oneOwner) before s) (hboard : s.board = oneOwner)
    (hx : s.standings[0]? = some (.free (.ask (.sleep time) next))) :
    ¬ SleepsNoMore ds ∧ ¬ LeavesSleepers ds := by
  obtain ⟨standings, board⟩ := s
  obtain rfl : board = oneOwner := hboard
  have hlt : 0 < standings.length := (List.getElem?_eq_some_iff.1 hx).1
  have hset (x : Standing α) : (standings.set 0 x)[0]? = some x := by simp [hlt]
  constructor
  · intro h
    have hafter : Scene.Steps 0 ⟨standings, oneOwner⟩
        [.outside (.trigger "owner"), .inside 0 (.lieDown time)] _ :=
      .cons (.outside _) (.cons (.inside hx .lieDown) .nil)
    have hnone := h oneOwner 0 before _ "owner" _ _ hrun rfl hafter 0 _ hx
    exact Nat.one_ne_zero hnone
  · intro h
    have hlooked : Scene.Steps 0 ⟨standings, oneOwner⟩
        [.inside 0 (.lieDown time), .inside 0 (.look false)]
        ⟨(standings.set 0 (.asleep time next false)).set 0 (.asleep time next true), oneOwner⟩ :=
      .cons (.inside hx .lieDown) (.cons (.inside (hset _) (.down rfl)) .nil)
    have hx' : ((standings.set 0 (.asleep time next false)).set 0 (.asleep time next true))[0]? =
        some (.asleep time next true) := by
      simp [hlt]
    have hafter : Scene.Steps 0
        ⟨(standings.set 0 (.asleep time next false)).set 0 (.asleep time next true), oneOwner⟩
        [.outside (.trigger "owner"), .inside 0 (.turn true)] _ :=
      .cons (.outside _) (.cons (.inside hx' .elapsed) .nil)
    have hnone := h oneOwner 0 _ _ "owner" _ _ (hrun.append hlooked) rfl hafter 0 _ hx'
    exact Nat.one_ne_zero hnone

/-- A submission is refused, and the check of the wait after it finds the signal down. -/
def refusedAndChecked (request : Request) : List Act :=
  [.begin (.submit request), .reply (.submit request) (.error (.http "")),
    .count (.submission false), .draw 0, .count .submitRetry, .check false]

/-- A wait whose check finds the signal down comes to its sleep next. -/
theorem exists_quiet_wait (time : Duration)
    (later : Unit → Relaying (Except DeliveryError α)) :
    ∃ next, Quiet (.free ((wait time).andThen later)) [.check false]
      (.free (.ask (.sleep time) next)) := by
  have hcheck : Quiet (.free ((wait time).andThen later)) [.check false] _ := .cons .check .nil
  exact ⟨_, hcheck⟩

theorem exists_quiet_refusedAndChecked (request : Request) (policy : SubmitPolicy)
    (h : (AttemptBudget.ofLimit policy.maxAttempts).record.hasRemaining = true) :
    ∃ next, Quiet (.free (call request policy)) (refusedAndChecked request)
      (.free (.ask (.sleep (pause policy 0)) next)) := by
  obtain ⟨next, hwait⟩ := exists_quiet_wait (pause policy 0) fun _ =>
    callFrom request policy (AttemptBudget.ofLimit policy.maxAttempts).record
  unfold call
  rw [callFrom]
  refine ⟨next, .cons .submit (.cons (.reply _) ?_)⟩
  change Quiet (.free (counting (.submission false) (if _ then _ else _))) _ _
  rw [if_pos h]
  exact .cons .count (.cons (.draw 0) (.cons .count hwait))

/-- A trigger that comes after the check of a wait leaves its sleep to begin, and one that comes
after the look of a sleep at its signal leaves its sleeper to be looked at. -/
theorem call_sleeps_after_trigger :
    let request := (Request.Draft.install [0]).build .default
    let ds := [call request .default]
    (∃ s s', Scene.Steps 0 (.start ds oneOwner) ((refusedAndChecked request).map (.inside 0)) s ∧
      Scene.Steps 0 s [.outside (.trigger "owner"), .inside 0 (.lieDown (pause .default 0))] s') ∧
    ¬ SleepsNoMore ds ∧ ¬ LeavesSleepers ds := by
  intro request ds
  obtain ⟨next, hquiet⟩ :=
    exists_quiet_refusedAndChecked request .default (by decide)
  have hrun : Scene.Steps 0 (.start ds oneOwner) ((refusedAndChecked request).map (.inside 0)) _ :=
    hquiet.steps rfl rfl
  exact ⟨⟨_, _, hrun, .cons (.outside _) (.cons (.inside rfl .lieDown) .nil)⟩,
    not_sleepsNoMore hrun rfl rfl⟩

variable {β : Type}

/-- While its signal is down, the dialogue does not end in a cancellation. -/
def Standing.Persists : Standing (Except DeliveryError β) → Prop
  | .free d => Relay.Persists d
  | .calling _ next => ∀ answer, Relay.Persists (next answer)
  | .asleep _ next _ => Relay.Persists (next .elapsed)

theorem Standing.Persists.move {x y : Standing (Except DeliveryError β)} {act : Act}
    (hm : Move false x act y) (h : x.Persists) : y.Persists := by
  cases hm with
  | submit | outcome => exact h
  | reply answer => exact h answer
  | draw word => exact h word
  | count | check | lieDown | elapsed | pending => exact h
  | cut hup => cases hup
  | down _ => exact h

/-- As long as the channel is not raised, no dialogue ends in a cancellation. -/
theorem Scene.Steps.persists {channel : Nat} {s s' : Scene (Except DeliveryError β)}
    {es : List Happening} (h : Steps channel s es s') (hdown : s'.board.raised channel = false)
    (hs : ∀ x ∈ s.standings, x.Persists) : ∀ x ∈ s'.standings, x.Persists := by
  induction h with
  | nil => exact hs
  | @cons s t u e es h rest ih =>
    refine ih hdown ?_
    cases h with
    | outside a => exact hs
    | inside hx hm =>
      -- A channel is never lowered, so it was down at this step already.
      have hsdown : s.board.raised channel = false := by
        rw [← Bool.not_eq_true]
        intro hup
        simp [rest.raised hup] at hdown
      intro x hmem
      rcases List.mem_or_eq_of_mem_set hmem with hold | rfl
      · exact hs x hold
      · exact Standing.Persists.move (hsdown ▸ hm) (hs _ (List.mem_of_getElem? hx))

def Scene.Cancelled (s : Scene (Except DeliveryError β)) : Prop :=
  Standing.free (.done (.error .cancelled)) ∈ s.standings

/-- A cancellation goes back to a coordinator of the relay's channel that was triggered, in
whatever way the channel came about. There is none with a signal that never fires, and none after
the coordinators of the signal have all been dropped without a trigger. -/
structure CancelsOnlyByTrigger (ds : List (Relaying (Except DeliveryError β))) : Prop where
  triggered : ∀ past channel es s',
    Scene.Steps channel (.start ds (Switchboard.empty.steps past)) es s' → s'.Cancelled →
    ∃ before owner after, past ++ outsides es = before ++ .trigger owner :: after ∧
      (Switchboard.empty.steps before).owner? owner = some channel
  never : ∀ past signal channel es s',
    ((Switchboard.empty.steps past).step (.never signal)).signal? signal = some channel →
    Scene.Steps channel (.start ds ((Switchboard.empty.steps past).step (.never signal))) es s' →
    ¬ s'.Cancelled
  dropped : ∀ past signal channel before after s s',
    (Switchboard.empty.steps past).signal? signal = some channel →
    Scene.Steps channel (.start ds (Switchboard.empty.steps past)) before s →
    (∀ owner, s.board.owner? owner ≠ some channel) → s.board.raised channel = false →
    Scene.Steps channel s after s' → ¬ s'.Cancelled

theorem Scene.Steps.not_cancelled {channel : Nat} {ds : List (Relaying (Except DeliveryError β))}
    {board : Switchboard} {s' : Scene (Except DeliveryError β)} {es : List Happening}
    (hds : ∀ d ∈ ds, Persists d) (h : Steps channel (.start ds board) es s')
    (hdown : s'.board.raised channel = false) : ¬ s'.Cancelled := by
  intro hcancelled
  have hstart : ∀ x ∈ (Scene.start ds board).standings, x.Persists := by
    intro x hx
    obtain ⟨d, hd, rfl⟩ := List.mem_map.1 hx
    exact hds d hd
  exact h.persists hdown hstart _ hcancelled rfl

theorem cancelsOnlyByTrigger_of_persists {ds : List (Relaying (Except DeliveryError β))}
    (hds : ∀ d ∈ ds, Persists d) : CancelsOnlyByTrigger ds where
  triggered past channel es s' h hcancelled := by
    have hup : s'.board.raised channel = true := by
      rw [← Bool.not_eq_false]
      exact fun hdown => h.not_cancelled hds hdown hcancelled
    rw [h.board_eq, Scene.start, ← Switchboard.steps_append, Switchboard.raised_steps_iff] at hup
    exact hup.resolve_left (by simp [Switchboard.empty])
  never past signal channel es s' hsignal h := by
    obtain ⟨hdeserted, hdown⟩ := (Switchboard.sound_steps past).deserted_never hsignal
    refine h.not_cancelled hds ?_
    rw [h.board_eq]
    exact hdeserted.raised_steps_eq_false hdown _
  dropped past signal channel before after s s' hsignal hbefore hno hdown hafter := by
    have hlt : channel < s.board.fresh := by
      rw [hbefore.board_eq]
      exact Nat.lt_of_lt_of_le ((Switchboard.sound_steps past).signal_lt signal channel hsignal)
        (Switchboard.fresh_le_steps _ _)
    refine (hbefore.append hafter).not_cancelled hds ?_
    rw [hafter.board_eq]
    exact Switchboard.Deserted.raised_steps_eq_false ⟨hlt, hno⟩ hdown _

theorem Persists.cancelsOnlyByTrigger {d : Relaying (Except DeliveryError β)} (h : Persists d) :
    CancelsOnlyByTrigger [d] :=
  cancelsOnlyByTrigger_of_persists (List.forall_mem_singleton.2 h)

/-- Shutdown and the operations of a relay, in every interleaving with everything else. -/
theorem operations_heed_shutdown :
    (∀ request policy,
      HeedsShutdown 1 [call request policy] ∧ CancelsOnlyByTrigger [call request policy]) ∧
    (∀ receipt policy,
      HeedsShutdown 1 [confirm receipt policy] ∧ CancelsOnlyByTrigger [confirm receipt policy]) ∧
    (∀ request policies, HeedsShutdown 2 [execute request policies] ∧
      CancelsOnlyByTrigger [execute request policies]) ∧
    (∀ receipts policy, HeedsShutdown 1 (confirmEach receipts policy) ∧
      CancelsOnlyByTrigger (confirmEach receipts policy)) := by
  refine ⟨fun request policy => ?_, fun receipt policy => ?_, fun request policies => ?_,
    fun receipts policy => ?_⟩
  · exact ⟨(obeys_callFrom request policy _).heeds.heedsShutdown,
      (persists_callFrom request policy _).cancelsOnlyByTrigger⟩
  · exact ⟨(obeys_confirmFrom receipt policy _).heeds.heedsShutdown,
      (persists_confirmFrom receipt policy _).cancelsOnlyByTrigger⟩
  · exact ⟨(obeys_execute request policies).heeds.heedsShutdown,
      (persists_execute request policies).cancelsOnlyByTrigger⟩
  · constructor
    · refine heedsShutdown_of_heeds fun d hd => ?_
      obtain ⟨receipt, -, rfl⟩ := List.mem_map.1 hd
      exact (obeys_confirmFrom receipt policy _).heeds
    · refine cancelsOnlyByTrigger_of_persists fun d hd => ?_
      obtain ⟨receipt, -, rfl⟩ := List.mem_map.1 hd
      exact persists_confirmFrom receipt policy _

end Courier.Relay
