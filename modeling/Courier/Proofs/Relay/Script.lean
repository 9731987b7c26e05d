import Courier.Proofs.Relay.Wait

/-!
Surroundings whose answers are fixed beforehand, one sequence for each kind of question. Every run
of a relay is a run against such a script.
-/
namespace Courier.Relay

/-- The answers that are still to come. Counted events need none. -/
structure Script where
  submission : Nat → Except TransportError Receipt
  outcome : Nat → Except TransportError OutcomeStatus
  word : Nat → UInt64
  raised : Nat → Bool
  waking : Nat → Waking

namespace Script

def answer : (q : Question) → Script → Answer q × Script
  | .submit _, x => (x.submission 0, { x with submission := fun n => x.submission (n + 1) })
  | .outcome _, x => (x.outcome 0, { x with outcome := fun n => x.outcome (n + 1) })
  | .draw, x => (x.word 0, { x with word := fun n => x.word (n + 1) })
  | .raised, x => (x.raised 0, { x with raised := fun n => x.raised (n + 1) })
  | .sleep _, x => (x.waking 0, { x with waking := fun n => x.waking (n + 1) })
  | .count _, x => ((), x)

/-- A ledger that refuses, and no shutdown. -/
instance : Inhabited Script where
  default := {
    submission := fun _ => .error (.http "")
    outcome := fun _ => .ok .pending
    word := fun _ => 0
    raised := fun _ => false
    waking := fun _ => .elapsed }

def cons : (q : Question) → Answer q → Script → Script
  | .submit _, a, x => { x with submission := fun n => Nat.casesOn n a x.submission }
  | .outcome _, a, x => { x with outcome := fun n => Nat.casesOn n a x.outcome }
  | .draw, a, x => { x with word := fun n => Nat.casesOn n a x.word }
  | .raised, a, x => { x with raised := fun n => Nat.casesOn n a x.raised }
  | .sleep _, a, x => { x with waking := fun n => Nat.casesOn n a x.waking }
  | .count _, _, x => x

theorem answer_cons (q : Question) (a : Answer q) (x : Script) : answer q (cons q a x) = (a, x) := by
  cases q <;> rfl

/-- Every way through a dialogue is the run against some script. -/
theorem exists_of_yields {α : Type} {d : Relaying α} {t : Log} {a : α} (h : d.Yields t a) :
    ∃ x : Script, d.transcript answer x = t ∧ (d.run answer x).1 = a := by
  induction h with
  | done value => exact ⟨default, rfl, rfl⟩
  | @ask q next reply t a _ ih =>
    obtain ⟨x, ht, ha⟩ := ih
    refine ⟨cons q reply x, ?_, ?_⟩
    · rw [Dialogue.transcript, answer_cons]
      exact congrArg _ ht
    · rw [Dialogue.run, answer_cons]
      exact ha

end Script
end Courier.Relay
