import Courier.Proofs.Dialogue.Yields
import Courier.Relay

/-! What shows of a relay at work, and the two ways in which a wait ends. -/
namespace Courier.Relay

abbrev Log : Type :=
  List ((q : Question) × Answer q)

/-- What the node and the clock notice of a relay. -/
inductive Event where
  | submitted (request : Request) (reply : Except TransportError Receipt)
  | asked (receipt : Receipt) (reply : Except TransportError OutcomeStatus)
  /-- A wait that lasted to its end. -/
  | waited (time : Duration)
  /-- A wait that shutdown ended, before or while the relay slept. -/
  | cut

def Event.ofEntry? : (q : Question) × Answer q → Option Event
  | ⟨.submit request, reply⟩ => some (.submitted request reply)
  | ⟨.outcome receipt, reply⟩ => some (.asked receipt reply)
  | ⟨.sleep time, .elapsed⟩ => some (.waited time)
  | ⟨.sleep _, .cut⟩ => some .cut
  | ⟨.raised, true⟩ => some .cut
  | ⟨.raised, false⟩ => none
  | ⟨.draw, _⟩ => none
  | ⟨.count _, _⟩ => none

def events (log : Log) : List Event :=
  log.filterMap Event.ofEntry?

@[simp] theorem events_append (a b : Log) : events (a ++ b) = events a ++ events b :=
  List.filterMap_append

theorem events_flatMap {ι : Type} (f : ι → Log) (l : List ι) :
    events (l.flatMap f) = l.flatMap fun i => events (f i) := by
  induction l with
  | nil => rfl
  | cons i l ih => simp only [List.flatMap_cons, events_append, ih]

def elapsedLog (time : Duration) : Log :=
  [⟨.raised, false⟩, ⟨.sleep time, .elapsed⟩]

/-- When shutdown ends a wait: before the sleep or during it. -/
inductive Cut where
  | before
  | during

def Cut.log (time : Duration) : Cut → Log
  | before => [⟨.raised, true⟩]
  | during => [⟨.raised, false⟩, ⟨.sleep time, .cut⟩]

@[simp] theorem events_cut_log (time : Duration) (c : Cut) : events (c.log time) = [.cut] := by
  cases c <;> rfl

theorem wait_andThen {α : Type} (time : Duration)
    (next : Unit → Relaying (Except DeliveryError α)) :
    (wait time).andThen next = .ask .raised fun
      | true => .done (.error .cancelled)
      | false => .ask (.sleep time) fun
        | .elapsed => next ()
        | .cut => .done (.error .cancelled) := by
  unfold wait Dialogue.andThen
  rw [Dialogue.bind]
  congr 1
  funext up
  cases up with
  | true => rfl
  | false =>
    change Dialogue.ask _ _ = Dialogue.ask _ _
    congr 1
    funext waking
    cases waking <;> rfl

/-- A wait lasts to its end and its sequel follows, or shutdown cuts it and all is over. -/
theorem log_of_yields_wait_andThen {α : Type} {time : Duration}
    {next : Unit → Relaying (Except DeliveryError α)} {t : Log} {r : Except DeliveryError α}
    (h : ((wait time).andThen next).Yields t r) :
    (∃ rest, t = elapsedLog time ++ rest ∧ (next ()).Yields rest r) ∨
      ∃ c : Cut, t = c.log time ∧ r = .error .cancelled := by
  rw [wait_andThen] at h
  obtain ⟨up, t', rfl, h'⟩ := Dialogue.yields_ask.1 h
  cases up with
  | true =>
    obtain ⟨rfl, rfl⟩ := Dialogue.yields_done.1 h'
    exact .inr ⟨.before, rfl, rfl⟩
  | false =>
    obtain ⟨waking, t'', rfl, h''⟩ := Dialogue.yields_ask.1 h'
    cases waking with
    | elapsed => exact .inl ⟨t'', rfl, h''⟩
    | cut =>
      obtain ⟨rfl, rfl⟩ := Dialogue.yields_done.1 h''
      exact .inr ⟨.during, rfl, rfl⟩

theorem log_of_yields_counting {α : Type} {c : Counter} {rest : Relaying α} {t : Log} {a : α}
    (h : (counting c rest).Yields t a) :
    ∃ u, t = ⟨.count c, ()⟩ :: u ∧ rest.Yields u a := by
  obtain ⟨_, u, rfl, h'⟩ := Dialogue.yields_ask.1 h
  exact ⟨u, rfl, h'⟩

end Courier.Relay
