import Courier.Proofs.Relay.Script
import Courier.Proofs.Relay.SideBySide

/-!
A confirmation among others does what it would do alone. As long as no shutdown comes, its log grows
along the log of a run in which the node tells the same outcomes and all sleeps last to their end.
-/
namespace Courier.Relay

/-- The items are the first of a sequence. -/
def Follows {β : Type} (f : Nat → β) (l : List β) : Prop :=
  ∀ n a, l[n]? = some a → a = f n

theorem follows_nil {β : Type} (f : Nat → β) : Follows f [] :=
  fun n a h => by simp at h

theorem follows_cons {β : Type} {f : Nat → β} {a : β} {l : List β} :
    Follows f (a :: l) ↔ a = f 0 ∧ Follows (fun n => f (n + 1)) l := by
  constructor
  · intro h
    exact ⟨h 0 a rfl, fun n b hb => h (n + 1) b hb⟩
  · intro ⟨ha, hl⟩ n b hb
    cases n with
    | zero => exact (Option.some.inj hb).symm.trans ha
    | succ n => exact hl n b hb

theorem follows_append {β : Type} {f : Nat → β} {l m : List β} :
    Follows f (l ++ m) ↔ Follows f l ∧ Follows (fun n => f (n + l.length)) m := by
  induction l generalizing f with
  | nil => exact ⟨fun h => ⟨follows_nil f, h⟩, fun h => h.2⟩
  | cons a l ih => rw [List.cons_append, follows_cons, follows_cons, ih, and_assoc]; rfl

/-- No shutdown, and these outcomes in turn. -/
def Script.undisturbed (outcome : Nat → Except TransportError OutcomeStatus) : Script :=
  { (default : Script) with outcome := outcome }

variable {α : Type}

/-- The log of a dialogue that is held alone and undisturbed. -/
def logAlone (outcome : Nat → Except TransportError OutcomeStatus) (d : Relaying α) : Log :=
  d.transcript Script.answer (.undisturbed outcome)

def valueAlone (outcome : Nat → Except TransportError OutcomeStatus) (d : Relaying α) : α :=
  (d.run Script.answer (.undisturbed outcome)).1

/-- While its signal is down, a dialogue asks the node for the outcome of this receipt only. -/
def AsksOnly (receipt : Receipt) : Relaying α → Prop
  | .done _ => True
  | .ask (.submit _) _ => False
  | .ask (.outcome r) next => r = receipt ∧ ∀ reply, AsksOnly receipt (next reply)
  | .ask .draw _ => False
  | .ask (.count _) next => AsksOnly receipt (next ())
  | .ask .raised next => AsksOnly receipt (next false)
  | .ask (.sleep _) next => AsksOnly receipt (next .elapsed)

theorem asksOnly_done (receipt : Receipt) (a : α) : AsksOnly receipt (.done a) := trivial

theorem AsksOnly.counting {receipt : Receipt} {d : Relaying α} (h : AsksOnly receipt d)
    (c : Counter) : AsksOnly receipt (counting c d) := h

theorem asksOnly_wait_andThen {receipt : Receipt} {time : Duration}
    {k : Unit → Relaying (Except DeliveryError α)} (hk : AsksOnly receipt (k ())) :
    AsksOnly receipt ((wait time).andThen k) := by
  rw [wait_andThen]
  exact hk

theorem asksOnly_confirmFrom (receipt : Receipt) (policy : PollPolicy) (b : AttemptBudget) :
    AsksOnly receipt (confirmFrom receipt policy b) := by
  induction b using confirmFrom.induct with
  | case1 b ih =>
    rw [confirmFrom]
    refine ⟨rfl, fun reply => AsksOnly.counting ?_ _⟩
    cases (found reply).2 with
    | some verdict => cases verdict <;> exact (asksOnly_done receipt _).counting _
    | none =>
      dsimp only
      split
      case isTrue hrem => exact asksOnly_wait_andThen (ih hrem)
      case isFalse => exact (asksOnly_done receipt _).counting _

def Standing.AsksOnly (receipt : Receipt) : Standing α → Prop
  | .free d => Relay.AsksOnly receipt d
  | .calling q next => q = .outcome receipt ∧ ∀ answer, Relay.AsksOnly receipt (next answer)
  | .asleep _ next _ => Relay.AsksOnly receipt (next .elapsed)

/-- What is left of a dialogue whose sleeps last to their end. -/
def Standing.rest : Standing α → Relaying α
  | .free d => d
  | .calling q next => .ask q next
  | .asleep _ next _ => next .elapsed

/-- What a step adds to the log of a dialogue whose sleeps last to their end. -/
def Act.entry? : Act → Option ((q : Question) × Answer q)
  | .begin _ => none
  | .reply q answer => some ⟨q, answer⟩
  | .draw word => some ⟨.draw, word⟩
  | .count c => some ⟨.count c, ()⟩
  | .check up => some ⟨.raised, up⟩
  | .lieDown time => some ⟨.sleep time, .elapsed⟩
  | .look _ => none
  | .turn _ => none

def Act.outcomeOf? (receipt : Receipt) : Act → Option (Except TransportError OutcomeStatus)
  | .reply (.outcome r) answer => if r = receipt then some answer else none
  | _ => none

theorem Act.outcomeOf?_reply (receipt : Receipt) (answer : Answer (.outcome receipt)) :
    (Act.reply (.outcome receipt) answer).outcomeOf? receipt = some answer :=
  if_pos rfl

/-- Whether a step leads on, which all do but those of a sleep that goes on. -/
def Act.leadsOn : Act → Bool
  | .look up => up
  | .turn ready => ready
  | _ => true

/-- By how much the steps may be ahead of twice the log. A call has no entry yet, and a sleep has
its entry before it is over. -/
def Standing.lag : Standing α → Nat
  | .free _ => 1
  | .calling _ _ => 2
  | .asleep _ _ _ => 0

variable {receipt : Receipt} {outcome : Nat → Except TransportError OutcomeStatus}
  {x y z : Standing α} {act : Act} {acts : List Act}

theorem Standing.AsksOnly.move (h : x.AsksOnly receipt) (hm : Move false x act y) :
    y.AsksOnly receipt := by
  cases hm with
  | submit | draw => exact h.elim
  | outcome => exact ⟨congrArg Question.outcome h.1, h.2⟩
  | reply answer => exact h.2 answer
  | count | check | lieDown | elapsed | pending => exact h
  | cut hup => cases hup
  | down _ => exact h

theorem Standing.AsksOnly.outcomeOf?_eq_none (h : x.AsksOnly receipt)
    (hm : Move false x act y) {other : Receipt} (hne : receipt ≠ other) :
    act.outcomeOf? other = none := by
  cases hm with
  | reply answer =>
    obtain ⟨rfl, -⟩ := h
    exact if_neg hne
  | _ => rfl

/-- One step with the signal down, in which the node may tell the next outcome. -/
theorem Move.alone (hm : Move false x act y) (hx : x.AsksOnly receipt)
    (hreply : Follows outcome (act.outcomeOf? receipt).toList) :
    logAlone outcome x.rest = act.entry?.toList ++
        logAlone (fun n => outcome (n + (act.outcomeOf? receipt).toList.length)) y.rest ∧
      valueAlone outcome x.rest =
        valueAlone (fun n => outcome (n + (act.outcomeOf? receipt).toList.length)) y.rest := by
  cases hm with
  | submit | draw => exact hx.elim
  | reply answer =>
    obtain ⟨rfl, -⟩ := hx
    rw [Act.outcomeOf?_reply] at hreply ⊢
    obtain rfl : answer = outcome 0 := hreply 0 answer rfl
    exact ⟨rfl, rfl⟩
  | cut hup => cases hup
  | _ => exact ⟨rfl, rfl⟩

theorem Move.leadsOn_le (hm : Move false x act y) :
    act.leadsOn.toNat + x.lag ≤ 2 * act.entry?.toList.length + y.lag := by
  cases hm with
  | cut hup => cases hup
  | _ => simp [Act.leadsOn, Act.entry?, Standing.lag]

theorem Quiet.asksOnly (h : Quiet x acts y) (hx : x.AsksOnly receipt) : y.AsksOnly receipt := by
  induction h with
  | nil => exact hx
  | cons hm _ ih => exact ih (hx.move hm)

theorem Quiet.outcomeOf?_eq_none (h : Quiet x acts y) (hx : x.AsksOnly receipt)
    {other : Receipt} (hne : receipt ≠ other) : ∀ act ∈ acts, act.outcomeOf? other = none := by
  induction h with
  | nil => simp
  | cons hm _ ih => exact List.forall_mem_cons.2 ⟨hx.outcomeOf?_eq_none hm hne, ih (hx.move hm)⟩

theorem filterMap_cons_eq_append {β γ : Type} (f : β → Option γ) (b : β) (l : List β) :
    (b :: l).filterMap f = (f b).toList ++ l.filterMap f := by
  cases h : f b <;> simp [h]

/-- What the dialogue has logged is the beginning of its log alone, and what is left of it comes to
the same value. -/
theorem Quiet.alone (h : Quiet x acts y) (hx : x.AsksOnly receipt)
    (hreplies : Follows outcome (acts.filterMap (Act.outcomeOf? receipt))) :
    ∃ later, logAlone outcome x.rest = acts.filterMap Act.entry? ++ logAlone later y.rest ∧
      valueAlone outcome x.rest = valueAlone later y.rest := by
  -- Each outcome that is told leaves the rest of the sequence to the steps after it.
  induction h generalizing outcome with
  | nil => exact ⟨outcome, rfl, rfl⟩
  | @cons x y z act acts hm _ ih =>
    rw [filterMap_cons_eq_append, follows_append] at hreplies
    obtain ⟨hlog, hvalue⟩ := hm.alone hx hreplies.1
    obtain ⟨later, ihlog, ihvalue⟩ := ih (hx.move hm) hreplies.2
    refine ⟨later, ?_, hvalue.trans ihvalue⟩
    rw [hlog, ihlog, filterMap_cons_eq_append, List.append_assoc]

/-- Whatever the outcomes are, node and sleepers can bring the dialogue to its end. -/
def Standing.Finishes (receipt : Receipt) (x : Standing α) : Prop :=
  ∀ outcome : Nat → Except TransportError OutcomeStatus, ∃ acts v,
    Quiet x acts (.free (.done v)) ∧ Follows outcome (acts.filterMap (Act.outcomeOf? receipt))

theorem Standing.Finishes.cons (h : y.Finishes receipt) (hm : Move false x act y)
    (hnone : act.outcomeOf? receipt = none) : x.Finishes receipt := by
  intro outcome
  obtain ⟨acts, v, hquiet, hfollows⟩ := h outcome
  exact ⟨act :: acts, v, .cons hm hquiet, by rwa [List.filterMap_cons_none hnone]⟩

theorem finishes_calling {next : Except TransportError OutcomeStatus → Relaying α}
    (h : ∀ reply, (Standing.free (next reply)).Finishes receipt) :
    (Standing.calling (.outcome receipt) next).Finishes receipt := by
  intro outcome
  obtain ⟨acts, v, hquiet, hfollows⟩ := h (outcome 0) fun n => outcome (n + 1)
  refine ⟨.reply (.outcome receipt) (outcome 0) :: acts, v, .cons (.reply _) hquiet, ?_⟩
  have hsome := Act.outcomeOf?_reply receipt (outcome 0)
  rw [List.filterMap_cons_some hsome]
  exact follows_cons.2 ⟨rfl, hfollows⟩

theorem finishes_asleep {time : Duration} {next : Waking → Relaying α}
    (h : (Standing.free (next .elapsed)).Finishes receipt) (looked : Bool) :
    (Standing.asleep time next looked).Finishes receipt := by
  have hlooked : (Standing.asleep time next true).Finishes receipt := h.cons .elapsed rfl
  cases looked with
  | true => exact hlooked
  | false => exact hlooked.cons (.down rfl) rfl

theorem AsksOnly.finishes {d : Relaying α} (h : AsksOnly receipt d) :
    (Standing.free d).Finishes receipt := by
  induction d with
  | done v => exact fun outcome => ⟨[], v, .nil, follows_nil outcome⟩
  | ask q next ih =>
    cases q with
    | submit | draw => exact h.elim
    | outcome r =>
      obtain ⟨rfl, hnext⟩ := h
      exact (finishes_calling fun reply => ih reply (hnext reply)).cons .outcome rfl
    | raised => exact (ih false h).cons .check rfl
    | sleep time => exact (finishes_asleep (ih .elapsed h) false).cons .lieDown rfl
    | count c => exact (ih () h).cons .count rfl

theorem Standing.AsksOnly.finishes (h : x.AsksOnly receipt) : x.Finishes receipt := by
  cases x with
  | free d => exact Relay.AsksOnly.finishes h
  | calling q next =>
    obtain ⟨rfl, hnext⟩ := h
    exact finishes_calling fun reply => (hnext reply).finishes
  | asleep time next looked => exact finishes_asleep (Relay.AsksOnly.finishes h) looked

theorem Quiet.countP_leadsOn_le (h : Quiet x acts y) :
    acts.countP Act.leadsOn + x.lag ≤ 2 * (acts.filterMap Act.entry?).length + y.lag := by
  induction h with
  | nil => simp
  | @cons x y z act acts hm _ ih =>
    have hstep := hm.leadsOn_le
    rw [filterMap_cons_eq_append, List.length_append, List.countP_cons]
    cases hon : act.leadsOn <;> simp [hon] at hstep ⊢ <;> omega

theorem Standing.lag_le (x : Standing α) (outcome) :
    x.lag ≤ 2 * (logAlone outcome x.rest).length + 1 := by
  cases x with
  | free d => exact Nat.le_add_left _ _
  | calling q next =>
    have hlog : 0 < (logAlone outcome (.ask q next)).length := Nat.succ_pos _
    change 2 ≤ 2 * (logAlone outcome (.ask q next)).length + 1
    omega
  | asleep time next looked => exact Nat.zero_le _

end Courier.Relay
