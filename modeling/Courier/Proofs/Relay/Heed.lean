import Courier.Proofs.Relay.Wait

/-!
What dialogues of a relay make of shutdown, whenever it comes: how often they still call on the
node, that they sleep no more, and that none ends in a cancellation without it.
-/
namespace Courier.Relay

/-- With its signal up, a dialogue calls on the node at most this often and does not sleep. -/
def EndsWithin {α : Type} : Relaying α → Nat → Prop
  | .done _, _ => True
  | .ask (.submit _) next, n => 0 < n ∧ ∀ reply, EndsWithin (next reply) (n - 1)
  | .ask (.outcome _) next, n => 0 < n ∧ ∀ reply, EndsWithin (next reply) (n - 1)
  | .ask .draw next, n => ∀ word, EndsWithin (next word) n
  | .ask (.count _) next, n => EndsWithin (next ()) n
  | .ask .raised next, n => EndsWithin (next true) n
  | .ask (.sleep _) _, _ => False

/-- The same for a dialogue whose wait may have found its signal down already: however the sleep
ends, there is no other. -/
def WakesWithin {α : Type} : Relaying α → Nat → Prop
  | .ask (.sleep _) next, n => ∀ waking, EndsWithin (next waking) n
  | d, n => EndsWithin d n

/-- However far a dialogue has come when shutdown comes, it calls at most this often from there. -/
def Heeds {α : Type} (n : Nat) : Relaying α → Prop
  | .done _ => True
  | .ask q next => WakesWithin (.ask q next) n ∧ ∀ answer, Heeds n (next answer)

variable {α β : Type}

theorem EndsWithin.mono {d : Relaying α} {m n : Nat} (h : EndsWithin d m) (hle : m ≤ n) :
    EndsWithin d n := by
  induction d generalizing m n with
  | done a => trivial
  | ask q next ih =>
    cases q with
    | submit | outcome =>
      exact ⟨Nat.lt_of_lt_of_le h.1 hle, fun a => ih a (h.2 a) (Nat.sub_le_sub_right hle 1)⟩
    | draw => exact fun word => ih word (h word) hle
    | raised => exact ih true h hle
    | sleep time => exact h.elim
    | count c => exact ih () h hle

theorem EndsWithin.wakesWithin {d : Relaying α} {n : Nat} (h : EndsWithin d n) :
    WakesWithin d n := by
  cases d with
  | done a => trivial
  | ask q next =>
    cases q with
    | sleep time => exact h.elim
    | _ => exact h

theorem WakesWithin.mono {d : Relaying α} {m n : Nat} (h : WakesWithin d m) (hle : m ≤ n) :
    WakesWithin d n := by
  cases d with
  | done a => trivial
  | ask q next =>
    cases q with
    | sleep time => exact fun waking => (h waking).mono hle
    | _ => exact (EndsWithin.mono (d := .ask _ next) h hle).wakesWithin

theorem Heeds.wakesWithin {d : Relaying α} {n : Nat} (h : Heeds n d) : WakesWithin d n := by
  cases d with
  | done a => trivial
  | ask q next => exact h.1

theorem Heeds.mono {d : Relaying α} {m n : Nat} (h : Heeds m d) (hle : m ≤ n) : Heeds n d := by
  induction d with
  | done a => trivial
  | ask q next ih => exact ⟨h.1.mono hle, fun a => ih a (h.2 a)⟩

/-- Whether shutdown has come or comes later, the dialogue calls at most so often from there. -/
structure Obeys (now later : Nat) (d : Relaying α) : Prop where
  endsWithin : EndsWithin d now
  heeds : Heeds later d

theorem EndsWithin.bind {d : Relaying α} {k : α → Relaying β} {m n : Nat}
    (hd : EndsWithin d m) (hk : ∀ a, EndsWithin (k a) n) : EndsWithin (d.bind k) (m + n) := by
  induction d generalizing m with
  | done a => exact (hk a).mono (Nat.le_add_left n m)
  | ask q next ih =>
    cases q with
    | submit | outcome =>
      refine ⟨Nat.add_pos_left hd.1 n, fun a => ?_⟩
      have hpos := hd.1
      have hrest := ih a (hd.2 a)
      rwa [show m - 1 + n = m + n - 1 by omega] at hrest
    | draw => exact fun word => ih word (hd word)
    | raised => exact ih true hd
    | sleep time => exact hd.elim
    | count c => exact ih () hd

theorem WakesWithin.bind {d : Relaying α} {k : α → Relaying β} {m n : Nat}
    (hd : WakesWithin d m) (hk : ∀ a, EndsWithin (k a) n) : WakesWithin (d.bind k) (m + n) := by
  cases d with
  | done a => exact (EndsWithin.mono (hk a) (Nat.le_add_left n m)).wakesWithin
  | ask q next =>
    cases q with
    | sleep time => exact fun waking => (hd waking).bind hk
    | _ => exact (EndsWithin.bind (d := .ask _ next) hd hk).wakesWithin

theorem Heeds.bind {d : Relaying α} {k : α → Relaying β} {m n : Nat} (hd : Heeds m d)
    (hk : ∀ a, Obeys n n (k a)) : Heeds (m + n) (d.bind k) := by
  induction d with
  | done a => exact (hk a).heeds.mono (Nat.le_add_left n m)
  | ask q next ih =>
    exact ⟨WakesWithin.bind (d := .ask q next) hd.1 fun a => (hk a).endsWithin,
      fun a => ih a (hd.2 a)⟩

theorem Obeys.bind {d : Relaying α} {k : α → Relaying β} {m n : Nat} (hd : Obeys m m d)
    (hk : ∀ a, Obeys n n (k a)) : Obeys (m + n) (m + n) (d.bind k) :=
  ⟨hd.endsWithin.bind fun a => (hk a).endsWithin, hd.heeds.bind hk⟩

theorem Obeys.andThen {d : Relaying (Except DeliveryError α)}
    {k : α → Relaying (Except DeliveryError β)} {m n : Nat} (hd : Obeys m m d)
    (hk : ∀ a, Obeys n n (k a)) : Obeys (m + n) (m + n) (d.andThen k) := by
  refine hd.bind fun r => ?_
  cases r with
  | ok a => exact hk a
  | error e => exact ⟨trivial, trivial⟩

theorem obeys_done (m n : Nat) (a : α) : Obeys m n (.done a : Relaying α) :=
  ⟨trivial, trivial⟩

theorem Obeys.counting {d : Relaying α} {n : Nat} (h : Obeys 0 n d) (c : Counter) :
    Obeys 0 n (counting c d) :=
  ⟨h.endsWithin, EndsWithin.mono h.endsWithin (Nat.zero_le n), fun _ => h.heeds⟩

theorem obeys_draw {k : UInt64 → Relaying α} {n : Nat} (h : ∀ word, Obeys 0 n (k word)) :
    Obeys 0 n (.ask .draw k) :=
  ⟨fun word => (h word).endsWithin, fun word => (h word).endsWithin.mono (Nat.zero_le n),
    fun word => (h word).heeds⟩

/-- A wait is the place where shutdown is heeded: what follows is not reached. -/
theorem obeys_wait_andThen {time : Duration} {k : Unit → Relaying (Except DeliveryError α)}
    {n : Nat} (hk : Obeys n n (k ())) : Obeys 0 n ((wait time).andThen k) := by
  rw [wait_andThen]
  refine ⟨trivial, trivial, fun up => ?_⟩
  cases up with
  | true => trivial
  | false =>
    constructor
    · intro waking
      cases waking with
      | elapsed => exact hk.endsWithin
      | cut => trivial
    · intro waking
      cases waking with
      | elapsed => exact hk.heeds
      | cut => trivial

theorem obeys_submit {request : Request} {k : Except TransportError Receipt → Relaying α}
    (h : ∀ reply, Obeys 0 1 (k reply)) : Obeys 1 1 (.ask (.submit request) k) := by
  have hnow : EndsWithin (.ask (.submit request) k) 1 :=
    ⟨Nat.one_pos, fun reply => (h reply).endsWithin⟩
  exact ⟨hnow, hnow, fun reply => (h reply).heeds⟩

theorem obeys_outcome {receipt : Receipt} {k : Except TransportError OutcomeStatus → Relaying α}
    (h : ∀ reply, Obeys 0 1 (k reply)) : Obeys 1 1 (.ask (.outcome receipt) k) := by
  have hnow : EndsWithin (.ask (.outcome receipt) k) 1 :=
    ⟨Nat.one_pos, fun reply => (h reply).endsWithin⟩
  exact ⟨hnow, hnow, fun reply => (h reply).heeds⟩

theorem obeys_callFrom (request : Request) (policy : SubmitPolicy) (b : AttemptBudget) :
    Obeys 1 1 (callFrom request policy b) := by
  induction b using callFrom.induct with
  | case1 b ih =>
    rw [callFrom]
    refine obeys_submit fun reply => ?_
    cases reply with
    | ok receipt => exact (obeys_done 0 1 _).counting _
    | error e =>
      refine Obeys.counting ?_ _
      split
      case isTrue hrem =>
        exact obeys_draw fun word => (obeys_wait_andThen (ih hrem)).counting _
      case isFalse => exact obeys_done 0 1 _

theorem obeys_confirmFrom (receipt : Receipt) (policy : PollPolicy) (b : AttemptBudget) :
    Obeys 1 1 (confirmFrom receipt policy b) := by
  induction b using confirmFrom.induct with
  | case1 b ih =>
    rw [confirmFrom]
    refine obeys_outcome fun reply => Obeys.counting ?_ _
    cases (found reply).2 with
    | some verdict => cases verdict <;> exact (obeys_done 0 1 _).counting _
    | none =>
      dsimp only
      split
      case isTrue hrem => exact obeys_wait_andThen (ih hrem)
      case isFalse => exact (obeys_done 0 1 _).counting _

theorem obeys_execute (request : Request) (policies : RelayPolicies) :
    Obeys 2 2 (execute request policies) := by
  refine Obeys.andThen (m := 1) (n := 1) (obeys_callFrom request policies.submit _) ?_
  intro receipt
  refine Obeys.andThen (m := 1) (n := 0) (obeys_confirmFrom receipt policies.poll _) ?_
  intro payload
  exact obeys_done 0 0 _

/-- While its signal is down, a dialogue does not end in a cancellation. -/
def Persists {α : Type} : Relaying (Except DeliveryError α) → Prop
  | .done r => r ≠ .error .cancelled
  | .ask (.submit _) next => ∀ reply, Persists (next reply)
  | .ask (.outcome _) next => ∀ reply, Persists (next reply)
  | .ask .draw next => ∀ word, Persists (next word)
  | .ask (.count _) next => Persists (next ())
  | .ask .raised next => Persists (next false)
  | .ask (.sleep _) next => Persists (next .elapsed)

theorem Persists.andThen {d : Relaying (Except DeliveryError α)}
    {k : α → Relaying (Except DeliveryError β)} (hd : Persists d) (hk : ∀ a, Persists (k a)) :
    Persists (d.andThen k) := by
  unfold Dialogue.andThen
  induction d with
  | done r =>
    cases r with
    | ok a => exact hk a
    | error e => exact fun he => hd (by cases he; rfl)
  | ask q next ih =>
    cases q with
    | submit | outcome => exact fun reply => ih reply (hd reply)
    | draw => exact fun word => ih word (hd word)
    | raised => exact ih false hd
    | sleep time => exact ih .elapsed hd
    | count c => exact ih () hd

theorem Persists.counting {d : Relaying (Except DeliveryError α)} (h : Persists d) (c : Counter) :
    Persists (counting c d) := h

theorem persists_draw {k : UInt64 → Relaying (Except DeliveryError α)}
    (h : ∀ word, Persists (k word)) : Persists (.ask .draw k) := h

theorem persists_wait_andThen {time : Duration} {k : Unit → Relaying (Except DeliveryError α)}
    (hk : Persists (k ())) : Persists ((wait time).andThen k) := by
  rw [wait_andThen]
  exact hk

theorem persists_callFrom (request : Request) (policy : SubmitPolicy) (b : AttemptBudget) :
    Persists (callFrom request policy b) := by
  induction b using callFrom.induct with
  | case1 b ih =>
    rw [callFrom]
    intro reply
    cases reply with
    | ok receipt => exact Persists.counting (by simp [Persists]) _
    | error e =>
      refine Persists.counting ?_ _
      split
      case isTrue hrem =>
        exact persists_draw fun word => (persists_wait_andThen (ih hrem)).counting _
      case isFalse => simp [Persists]

theorem persists_confirmFrom (receipt : Receipt) (policy : PollPolicy) (b : AttemptBudget) :
    Persists (confirmFrom receipt policy b) := by
  induction b using confirmFrom.induct with
  | case1 b ih =>
    rw [confirmFrom]
    intro reply
    refine Persists.counting ?_ _
    cases (found reply).2 with
    | some verdict => cases verdict <;> exact Persists.counting (by simp [Persists]) _
    | none =>
      dsimp only
      split
      case isTrue hrem => exact persists_wait_andThen (ih hrem)
      case isFalse => exact Persists.counting (by simp [Persists]) _

theorem persists_execute (request : Request) (policies : RelayPolicies) :
    Persists (execute request policies) :=
  (persists_callFrom request policies.submit _).andThen fun receipt =>
    (persists_confirmFrom receipt policies.poll _).andThen fun payload => by simp [Persists]

end Courier.Relay
