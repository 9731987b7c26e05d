import Courier.Client
import Courier.Proofs.Node.Exchange
import Courier.Proofs.Relay.Wait

/-!
What the addresses of a node see of a client: only submissions and queries of the relay reach
them, and of the other questions there is nothing to see.
-/
namespace Courier.Client

open Dialogue Node

abbrev Log : Type :=
  List ((q : Question) × Answer q)

/-- The request to an address that a question is. -/
def trip? : (q : Question) × Answer q → Option Trip
  | ⟨.post request, x⟩ => some ⟨request, x⟩
  | ⟨.draw, _⟩ => none
  | ⟨.raised, _⟩ => none
  | ⟨.sleep _, _⟩ => none
  | ⟨.count _, _⟩ => none

def trips (t : Log) : List Trip :=
  t.filterMap trip?

@[simp] theorem trips_nil : trips [] = [] := rfl

@[simp] theorem trips_append (a b : Log) : trips (a ++ b) = trips a ++ trips b :=
  List.filterMap_append

/-- A dialogue with addresses alone is the same way through it for a client. -/
theorem yields_trips_of_posting {α : Type} {d : Posting α} {t : Log} {a : α}
    (h : (posting d).Yields t a) : d.Yields (trips t) a := by
  obtain ⟨l, hl, ht⟩ := yields_substitute.1 h
  have hlog : trips t = l := by
    clear hl h
    induction ht with
    | nil => rfl
    | cons head tail ih =>
      obtain ⟨x, rest, rfl, hrest⟩ := yields_ask.1 head
      obtain ⟨rfl, rfl⟩ := yields_done.1 hrest
      rw [trips_append, ih]
      rfl
  rw [hlog]
  exact hl

def isLocal : Relay.Question → Bool
  | .submit _ => false
  | .outcome _ => false
  | .draw => true
  | .raised => true
  | .sleep _ => true
  | .count _ => true

variable {n : Node} {t : Log}

theorem trips_of_yields_through_local {q : Relay.Question} {answer : Relay.Answer q}
    (hq : isLocal q = true) (h : (through n q).Yields t answer) : trips t = [] := by
  cases q with
  | submit request => cases hq
  | outcome receipt => cases hq
  | _ =>
    obtain ⟨x, rest, rfl, hrest⟩ := yields_ask.1 h
    obtain ⟨rfl, rfl⟩ := yields_done.1 hrest
    rfl

/-- No address sees anything of questions that are answered without the node. -/
theorem trips_of_refines_local {l : Relay.Log} (hl : ∀ e ∈ l, isLocal e.1 = true)
    (h : Refines (through n) l t) : trips t = [] := by
  induction h with
  | nil => rfl
  | cons head tail ih =>
    rw [trips_append, trips_of_yields_through_local (hl _ List.mem_cons_self) head,
      ih fun e he => hl e (List.mem_cons_of_mem _ he)]
    rfl

/-- Of a question with such questions after it, the addresses see the first one only. -/
theorem trips_of_refines_cons_local {q : Relay.Question} {answer : Relay.Answer q}
    {l : Relay.Log} (hl : ∀ e ∈ l, isLocal e.1 = true)
    (h : Refines (through n) (⟨q, answer⟩ :: l) t) :
    ∃ u, (through n q).Yields u answer ∧ trips t = trips u := by
  obtain ⟨u, v, rfl, hu, hv⟩ := refines_cons.1 h
  refine ⟨u, hu, ?_⟩
  rw [trips_append, trips_of_refines_local hl hv, List.append_nil]

end Courier.Client
