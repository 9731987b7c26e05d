import Courier.Dialogue

/-!
Several dialogues at once in virtual time. Each goes on until it has to wait for an answer; when
all of them wait, the time passes to the next moment at which one can go on. At one moment the
dialogues go on in the order of their list.
-/
namespace Courier.Timeline

/-- What becomes of a question: it is answered at once, or `check` finds the answer later, at the
latest at the moment that is given. -/
inductive Prospect (σ α : Type) where
  | now (answer : α)
  | later (due? : Option Nat) (check : σ → Option (α × σ))

/-- A world that questions are put to. -/
structure Surroundings (Q : Type) (A : Q → Type) (σ : Type) where
  pose : (q : Q) → σ → Prospect σ (A q) × σ
  now : σ → Nat
  /-- The next moment at which something happens on its own. -/
  alarm? : σ → Option Nat
  /-- Lets the time pass to a later moment. -/
  passTo : Nat → σ → σ

/-- A dialogue that is over, or that waits for an answer. -/
inductive Task (Q : Type) (A : Q → Type) (σ α : Type) where
  | finished (value : α)
  | waiting (q : Q) (due? : Option Nat) (check : σ → Option (A q × σ))
      (next : A q → Dialogue Q A α)

variable {Q : Type} {A : Q → Type} {σ α : Type}

/-- Goes on until the end or until an answer is not there. -/
def advance (e : Surroundings Q A σ) : Dialogue Q A α → σ → Task Q A σ α × σ
  | .done a, s => (.finished a, s)
  | .ask q next, s =>
    match e.pose q s with
    | (.now answer, s) => advance e (next answer) s
    | (.later due? check, s) => (.waiting q due? check next, s)

def Task.resume? (e : Surroundings Q A σ) (s : σ) : Task Q A σ α → Option (Task Q A σ α × σ)
  | .finished _ => none
  | .waiting _ _ check next => (check s).map fun (answer, s) => advance e (next answer) s

def start (e : Surroundings Q A σ) : List (Dialogue Q A α) → σ → List (Task Q A σ α) × σ
  | [], s => ([], s)
  | d :: rest, s =>
    let (t, s) := advance e d s
    let (ts, s) := start e rest s
    (t :: ts, s)

/-- Goes through the tasks once, and tells whether any went on. -/
def round (e : Surroundings Q A σ) :
    List (Task Q A σ α) → σ → List (Task Q A σ α) × σ × Bool
  | [], s => ([], s, false)
  | t :: rest, s =>
    match t.resume? e s with
    | none =>
      let (ts, s, moved) := round e rest s
      (t :: ts, s, moved)
    | some (t, s) =>
      let (ts, s, _) := round e rest s
      (t :: ts, s, true)

def earlier : Option Nat → Option Nat → Option Nat
  | none, b => b
  | a, none => a
  | some a, some b => some (min a b)

def Task.isWaiting : Task Q A σ α → Bool
  | .finished _ => false
  | .waiting .. => true

/-- When the answer to a task comes at the latest. -/
def Task.due? : Task Q A σ α → Option Nat
  | .finished _ => none
  | .waiting _ due? _ _ => due?

/-- The next moment worth waiting for, when somebody waits. -/
def nextMoment? (e : Surroundings Q A σ) (tasks : List (Task Q A σ α)) (s : σ) : Option Nat :=
  if tasks.any Task.isWaiting then
    tasks.foldl (fun t task => earlier t task.due?) (e.alarm? s)
  else none

/-- Goes round until all is over or nothing can happen any more, at most `rounds` times. -/
def settle (e : Surroundings Q A σ) : Nat → List (Task Q A σ α) → σ → List (Task Q A σ α) × σ
  | 0, tasks, s => (tasks, s)
  | rounds + 1, tasks, s =>
    match round e tasks s with
    | (tasks, s, true) => settle e rounds tasks s
    | (tasks, s, false) =>
      match nextMoment? e tasks s with
      | none => (tasks, s)
      | some t => settle e rounds tasks (e.passTo (max t (e.now s)) s)

def Task.value? : Task Q A σ α → Option α
  | .finished a => some a
  | .waiting .. => none

/-- Holds dialogues side by side and gives the values of those that ended. -/
def play (e : Surroundings Q A σ) (rounds : Nat) (dialogues : List (Dialogue Q A α)) (s : σ) :
    List (Option α) × σ :=
  let (tasks, s) := start e dialogues s
  let (tasks, s) := settle e rounds tasks s
  (tasks.map Task.value?, s)

end Courier.Timeline
