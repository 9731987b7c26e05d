import Courier.Proofs.Relay.Wait
import Courier.Proofs.Shutdown

/-!
Dialogues of one relay side by side, in the smallest steps that something else can come between:
calls on the node begin and end apart, and a sleep looks at its signal and at its sleeper apart,
at the signal first. What is done with coordinators comes between any two steps.
-/
namespace Courier.Relay

inductive Standing (α : Type) where
  | free (d : Relaying α)
  /-- The node was called and has not answered. -/
  | calling (q : Question) (next : Answer q → Relaying α)
  /-- Asleep. `looked` tells that the signal was seen down and the sleeper is looked at next. -/
  | asleep (time : Duration) (next : Waking → Relaying α) (looked : Bool)

inductive Act where
  | begin (q : Question)
  | reply (q : Question) (answer : Answer q)
  | draw (word : UInt64)
  | count (counter : Counter)
  /-- A wait begins and sees whether shutdown has come; if not, it goes to sleep. -/
  | check (up : Bool)
  | lieDown (time : Duration)
  /-- A sleep looks at its signal. -/
  | look (up : Bool)
  /-- A sleep looks at its sleeper. -/
  | turn (ready : Bool)

/-- The steps of a dialogue whose signal is up or down. Node and sleeper may do what they like. -/
inductive Move {α : Type} (up : Bool) : Standing α → Act → Standing α → Prop where
  | submit {request next} : Move up (.free (.ask (.submit request) next))
      (.begin (.submit request)) (.calling (.submit request) next)
  | outcome {receipt next} : Move up (.free (.ask (.outcome receipt) next))
      (.begin (.outcome receipt)) (.calling (.outcome receipt) next)
  | reply {q next} (answer : Answer q) : Move up (.calling q next) (.reply q answer)
      (.free (next answer))
  | draw {next} (word : UInt64) : Move up (.free (.ask .draw next)) (.draw word)
      (.free (next word))
  | count {c next} : Move up (.free (.ask (.count c) next)) (.count c) (.free (next ()))
  | check {next} : Move up (.free (.ask .raised next)) (.check up) (.free (next up))
  | lieDown {time next} : Move up (.free (.ask (.sleep time) next)) (.lieDown time)
      (.asleep time next false)
  | cut {time next} (h : up = true) : Move up (.asleep time next false) (.look true)
      (.free (next .cut))
  | down {time next} (h : up = false) : Move up (.asleep time next false) (.look false)
      (.asleep time next true)
  | elapsed {time next} : Move up (.asleep time next true) (.turn true) (.free (next .elapsed))
  | pending {time next} : Move up (.asleep time next true) (.turn false)
      (.asleep time next false)

/-- The dialogues of a relay, and all coordinators and signals. -/
structure Scene (α : Type) where
  standings : List (Standing α)
  board : Switchboard

def Scene.start {α : Type} (ds : List (Relaying α)) (board : Switchboard) : Scene α :=
  ⟨ds.map .free, board⟩

/-- What happens in a scene: something to coordinators and signals, or a step of one dialogue. -/
inductive Happening where
  | outside (step : ShutdownStep)
  | inside (who : Nat) (act : Act)

/-- The steps of a scene whose dialogues have a signal of the given channel. -/
inductive Scene.Step {α : Type} (channel : Nat) : Scene α → Happening → Scene α → Prop where
  | outside {s : Scene α} (a : ShutdownStep) :
      Step channel s (.outside a) { s with board := s.board.step a }
  | inside {s : Scene α} {who : Nat} {x y : Standing α} {act : Act}
      (hx : s.standings[who]? = some x) (h : Move (s.board.raised channel) x act y) :
      Step channel s (.inside who act) { s with standings := s.standings.set who y }

inductive Scene.Steps {α : Type} (channel : Nat) : Scene α → List Happening → Scene α → Prop where
  | nil {s : Scene α} : Steps channel s [] s
  | cons {s t u : Scene α} {e : Happening} {es : List Happening}
      (h : Step channel s e t) (rest : Steps channel t es u) : Steps channel s (e :: es) u

def outsides (es : List Happening) : List ShutdownStep :=
  es.filterMap fun
    | .outside a => some a
    | .inside _ _ => none

def actsOf (who : Nat) (es : List Happening) : List Act :=
  es.filterMap fun
    | .outside _ => none
    | .inside i act => if i = who then some act else none

variable {α : Type} {channel : Nat} {s s' : Scene α} {es : List Happening}

theorem Scene.Steps.board_eq (h : Steps channel s es s') :
    s'.board = s.board.steps (outsides es) := by
  induction h with
  | nil => rfl
  | cons h _ ih =>
    cases h with
    | outside a => exact ih
    | inside hx hm => exact ih

theorem Scene.Steps.raised (h : Steps channel s es s') (hup : s.board.raised channel = true) :
    s'.board.raised channel = true := by
  rw [h.board_eq]
  exact Switchboard.raised_steps_of_raised hup _

/-- While the signal stays as it is, a run looks to each dialogue like steps of its own. -/
theorem Scene.Steps.project {up : Bool} {R : Standing α → List Act → Standing α → Prop}
    (hnil : ∀ x, R x [] x)
    (hcons : ∀ x act y acts z, Move up x act y → R y acts z → R x (act :: acts) z)
    (h : Steps channel s es s') (hs : s.board.raised channel = up)
    (hs' : s'.board.raised channel = up) {who : Nat} {x : Standing α}
    (hx : s.standings[who]? = some x) :
    ∃ y, s'.standings[who]? = some y ∧ R x (actsOf who es) y := by
  induction h generalizing x with
  | nil => exact ⟨x, hx, hnil x⟩
  | @cons s t u e es h rest ih =>
    -- A channel is never lowered, so in between it is as it is at both ends.
    have ht : t.board.raised channel = up := by
      cases up with
      | true => exact (Steps.cons h .nil).raised hs
      | false => exact Bool.eq_false_iff.2 fun hup => by simp [rest.raised hup] at hs'
    cases h with
    | outside a => exact ih ht hs' hx
    | @inside i x' y' act hx' hm =>
      by_cases hi : i = who
      · subst hi
        obtain rfl := Option.some.inj (hx'.symm.trans hx)
        have hlt := (List.getElem?_eq_some_iff.1 hx).1
        obtain ⟨y, hy, hacts⟩ := ih ht hs' (x := y') (by simp [hlt])
        have hcons' : actsOf i (.inside i act :: es) = act :: actsOf i es := by simp [actsOf]
        exact ⟨y, hy, hcons' ▸ hcons _ _ _ _ _ (hs ▸ hm) hacts⟩
      · obtain ⟨y, hy, hacts⟩ := ih ht hs' (x := x) (by simp [hi, hx])
        have hskip : actsOf who (.inside i act :: es) = actsOf who es := by simp [actsOf, hi]
        exact ⟨y, hy, hskip ▸ hacts⟩

/-- Several steps of one dialogue while its signal is up. -/
inductive Moves : Standing α → List Act → Standing α → Prop where
  | nil {x : Standing α} : Moves x [] x
  | cons {x y z : Standing α} {act : Act} {acts : List Act} (h : Move true x act y)
      (rest : Moves y acts z) : Moves x (act :: acts) z

/-- Once the channel is raised, each dialogue goes its own way with its signal up. -/
theorem Scene.Steps.moves (h : Steps channel s es s') (hup : s.board.raised channel = true)
    {who : Nat} {x : Standing α} (hx : s.standings[who]? = some x) :
    ∃ y, s'.standings[who]? = some y ∧ Moves x (actsOf who es) y :=
  h.project (fun _ => .nil) (fun _ _ _ _ _ => .cons) hup (h.raised hup) hx

/-- Several steps of one dialogue while its signal is down. -/
inductive Quiet : Standing α → List Act → Standing α → Prop where
  | nil {x : Standing α} : Quiet x [] x
  | cons {x y z : Standing α} {act : Act} {acts : List Act} (h : Move false x act y)
      (rest : Quiet y acts z) : Quiet x (act :: acts) z

/-- As long as the channel is not raised, each dialogue goes its own way with its signal down. -/
theorem Scene.Steps.quiet (h : Steps channel s es s') (hdown : s'.board.raised channel = false)
    {who : Nat} {x : Standing α} (hx : s.standings[who]? = some x) :
    ∃ y, s'.standings[who]? = some y ∧ Quiet x (actsOf who es) y := by
  have hs : s.board.raised channel = false :=
    Bool.eq_false_iff.2 fun hup => by simp [h.raised hup] at hdown
  exact h.project (fun _ => .nil) (fun _ _ _ _ _ => .cons) hs hdown hx

/-- Any number of steps of one dialogue are possible in a scene, whatever the others do. -/
theorem Quiet.steps {x y : Standing α} {acts : List Act} {who : Nat} (h : Quiet x acts y)
    (hdown : s.board.raised channel = false) (hx : s.standings[who]? = some x) :
    Scene.Steps channel s (acts.map (.inside who))
      { s with standings := s.standings.set who y } := by
  induction h generalizing s with
  | @nil x =>
    obtain ⟨hlt, rfl⟩ := List.getElem?_eq_some_iff.1 hx
    rw [List.set_getElem_self]
    exact .nil
  | @cons x y z act acts hm _ ih =>
    have hlt := (List.getElem?_eq_some_iff.1 hx).1
    have hrest := ih (s := { s with standings := s.standings.set who y }) hdown (by simp [hlt])
    rw [List.set_set] at hrest
    exact .cons (.inside hx (hdown ▸ hm)) hrest

theorem Scene.Steps.append {t : Scene α} {fs : List Happening} (h : Steps channel s es t)
    (h' : Steps channel t fs s') : Steps channel s (es ++ fs) s' := by
  induction h with
  | nil => exact h'
  | cons h _ ih => exact .cons h (ih h')

/-- What all steps keep for a dialogue holds for all dialogues after any run. -/
theorem Scene.Steps.forall_standings {P : Standing α → Prop}
    (hmove : ∀ up x act y, Move up x act y → P x → P y) (h : Steps channel s es s')
    (hs : ∀ x ∈ s.standings, P x) : ∀ x ∈ s'.standings, P x := by
  induction h with
  | nil => exact hs
  | cons h _ ih =>
    refine ih ?_
    cases h with
    | outside a => exact hs
    | inside hx hm =>
      intro x hmem
      rcases List.mem_or_eq_of_mem_set hmem with hold | rfl
      · exact hs x hold
      · exact hmove _ _ _ _ hm (hs _ (List.mem_of_getElem? hx))

end Courier.Relay
