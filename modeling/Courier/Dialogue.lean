/-!
Dialogues: programs as trees of questions to their surroundings. Each question has its own type of
answers, and whatever the answers are, a dialogue comes to an end. The same dialogue can be run
against a state, against the real world, or have its questions replaced by other dialogues.
-/
namespace Courier

/-- A program that asks questions from `Q`, where `A q` are the answers to `q`, and gives an `α`. -/
inductive Dialogue (Q : Type) (A : Q → Type) (α : Type) where
  | done (value : α)
  | ask (question : Q) (next : A question → Dialogue Q A α)

namespace Dialogue

variable {Q : Type} {A : Q → Type} {α β : Type}

/-- A single question, whose answer is the value. -/
def question (q : Q) : Dialogue Q A (A q) :=
  .ask q .done

def bind (next : α → Dialogue Q A β) : Dialogue Q A α → Dialogue Q A β
  | done a => next a
  | ask q k => ask q fun answer => (k answer).bind next

instance : Monad (Dialogue Q A) where
  pure := done
  bind d next := d.bind next

/-- Runs against a state: `answer` tells how each question is answered and what becomes of the
state. -/
def run {σ : Type} (answer : (q : Q) → σ → A q × σ) : Dialogue Q A α → σ → α × σ
  | done a, s => (a, s)
  | ask q k, s =>
    let (reply, s) := answer q s
    (k reply).run answer s

def transcript {σ : Type} (answer : (q : Q) → σ → A q × σ) :
    Dialogue Q A α → σ → List ((q : Q) × A q)
  | done _, _ => []
  | ask q k, s =>
    let (reply, s) := answer q s
    ⟨q, reply⟩ :: (k reply).transcript answer s

/-- Runs in a monad that answers the questions. -/
def interpret {m : Type → Type} [Monad m] (answer : (q : Q) → m (A q)) :
    Dialogue Q A α → m α
  | done a => pure a
  | ask q k => do (k (← answer q)).interpret answer

/-- Replaces each question by a dialogue that finds its answer. -/
def substitute {Q' : Type} {A' : Q' → Type} (f : (q : Q) → Dialogue Q' A' (A q)) :
    Dialogue Q A α → Dialogue Q' A' α
  | done a => done a
  | ask q k => (f q).bind fun answer => (k answer).substitute f

def andThen {ε : Type} (d : Dialogue Q A (Except ε α)) (next : α → Dialogue Q A (Except ε β)) :
    Dialogue Q A (Except ε β) :=
  d.bind fun
    | .ok a => next a
    | .error e => done (.error e)

/-- Holds one dialogue after the other for the items of a list. -/
def traverse {ι : Type} (f : ι → Dialogue Q A α) : List ι → Dialogue Q A (List α)
  | [] => done []
  | i :: rest => (f i).bind fun a => (traverse f rest).bind fun as => done (a :: as)

theorem run_bind {σ : Type} (answer : (q : Q) → σ → A q × σ) (d : Dialogue Q A α)
    (next : α → Dialogue Q A β) (s : σ) :
    (d.bind next).run answer s = (next (d.run answer s).1).run answer (d.run answer s).2 := by
  induction d generalizing s with
  | done a => rfl
  | ask q k ih => exact ih _ _

theorem transcript_bind {σ : Type} (answer : (q : Q) → σ → A q × σ) (d : Dialogue Q A α)
    (next : α → Dialogue Q A β) (s : σ) :
    (d.bind next).transcript answer s =
      d.transcript answer s ++
        (next (d.run answer s).1).transcript answer (d.run answer s).2 := by
  induction d generalizing s with
  | done a => rfl
  | ask q k ih => exact congrArg (_ :: ·) (ih _ _)

end Dialogue
end Courier
