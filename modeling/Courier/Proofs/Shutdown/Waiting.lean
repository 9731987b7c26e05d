import Courier.Proofs.Shutdown.Lineage

/-!
Waiting for a signal. A wait looks at its channel whenever it is woken: a raised channel ends it,
and one that lost its coordinators is not looked at again. It is over exactly when a coordinator of
its origin was triggered, so what it does not look at any more it does not miss.
-/
namespace Courier.Switchboard

inductive Vigil where
  | watching
  /-- The channel had no coordinators left. -/
  | parked
  | ended
deriving DecidableEq, Repr

/-- What a wait makes of one look at its channel. -/
inductive Look (s : Switchboard) (channel : Nat) : Vigil → Vigil → Prop where
  | seen (hup : s.raised channel = true) : Look s channel .watching .ended
  | lost (hdown : s.raised channel = false) (hlost : ∀ owner, s.owner? owner ≠ some channel) :
      Look s channel .watching .parked
  | still {owner : String} (hdown : s.raised channel = false)
      (howner : s.owner? owner = some channel) : Look s channel .watching .watching
  | parked : Look s channel .parked .parked
  | ended : Look s channel .ended .ended

/-- A wait during further steps. It may look at its channel at any moment, or at none. -/
inductive Attends (channel : Nat) : Switchboard → Vigil → List ShutdownStep → Vigil → Prop where
  | nil {s : Switchboard} {v : Vigil} : Attends channel s v [] v
  | step {s : Switchboard} {a : ShutdownStep} {v w : Vigil} {later : List ShutdownStep}
      (rest : Attends channel (s.step a) v later w) : Attends channel s v (a :: later) w
  | look {s : Switchboard} {v v' w : Vigil} {later : List ShutdownStep}
      (h : Look s channel v v') (rest : Attends channel s v' later w) :
      Attends channel s v later w

variable {s : Switchboard} {channel : Nat} {v w : Vigil} {later : List ShutdownStep}

theorem exists_look (s : Switchboard) (channel : Nat) (v : Vigil) : ∃ w, Look s channel v w := by
  cases v with
  | watching =>
    cases hraised : s.raised channel with
    | true => exact ⟨_, .seen hraised⟩
    | false =>
      by_cases howner : ∃ owner, s.owner? owner = some channel
      · obtain ⟨owner, howner⟩ := howner
        exact ⟨_, .still hraised howner⟩
      · exact ⟨_, .lost hraised fun owner h => howner ⟨owner, h⟩⟩
  | parked => exact ⟨_, .parked⟩
  | ended => exact ⟨_, .ended⟩

/-- What a wait has found holds of the board. -/
def Found (s : Switchboard) (channel : Nat) : Vigil → Prop
  | .watching => channel < s.fresh
  | .parked => s.Deserted channel ∧ s.raised channel = false
  | .ended => s.raised channel = true

theorem Found.look (hv : s.Found channel v) (h : Look s channel v w) : s.Found channel w := by
  cases h with
  | seen hup => exact hup
  | lost hdown hlost => exact ⟨⟨hv, hlost⟩, hdown⟩
  | still | parked | ended => exact hv

theorem Found.step (hv : s.Found channel v) (a : ShutdownStep) : (s.step a).Found channel v := by
  cases v with
  | watching => exact Nat.lt_of_lt_of_le hv (fresh_le_step s a)
  | parked => exact ⟨hv.1.step a, hv.1.raised_steps_eq_false hv.2 [a]⟩
  | ended => exact raised_steps_of_raised hv [a]

theorem Found.attends (hv : s.Found channel v) (h : Attends channel s v later w) :
    (s.steps later).Found channel w := by
  induction h with
  | nil => exact hv
  | step _ ih => exact ih (hv.step _)
  | look h _ ih => exact ih (hv.look h)

theorem Found.look_ended_iff (hv : s.Found channel v) (h : Look s channel v w) :
    w = .ended ↔ s.raised channel = true := by
  cases h with
  | seen hup => simp [hup]
  | lost hdown | still hdown => simp [hdown]
  | parked => simp [hv.2]
  | ended => exact ⟨fun _ => hv, fun _ => rfl⟩

/-- Waiting is over within some steps exactly when the channel is raised after them. -/
theorem isSome_awaitRaised? (s : Switchboard) (channel : Nat) (later : List ShutdownStep) :
    (s.awaitRaised? channel later).isSome = (s.steps later).raised channel := by
  induction later generalizing s with
  | nil =>
    unfold awaitRaised?
    cases h : s.raised channel <;> simp [h]
  | cons a later ih =>
    unfold awaitRaised?
    cases h : s.raised channel with
    | true => simpa using (raised_steps_of_raised h (a :: later)).symm
    | false => simpa using ih (s.step a)

theorem cancelled_eq (s : Switchboard) (signal : String) :
    s.cancelled signal = s.triggered (.signal signal) := by
  unfold cancelled
  simp only [isSome_awaitRaised?, steps_nil]
  rfl

theorem found_of_signal? {history : List ShutdownStep} {signal : String}
    (h : (empty.steps history).signal? signal = some channel) :
    (empty.steps history).Found channel .watching :=
  (sound_steps history).signal_lt signal channel h

/-- The channel that a signal shares with no coordinator is deserted. -/
theorem deserted_of_origin? {history : List ShutdownStep} {signal : String} {n : Nat}
    (h : (empty.steps history).signal? signal = some channel)
    (hn : origin? history.reverse (.signal signal) = some n)
    (hdropped : ∀ owner, origin? history.reverse (.owner owner) ≠ some n) :
    (empty.steps history).Deserted channel := by
  refine ⟨found_of_signal? h, fun owner howner => ?_⟩
  have hself : history <+: history := List.prefix_refl _
  obtain ⟨m, hm, hm'⟩ := (exists_channel?_iff_exists_origin? hself hself).1
    (show ∃ c, (empty.steps history).channel? (.owner owner) = some c ∧
      (empty.steps history).channel? (.signal signal) = some c from ⟨channel, howner, h⟩)
  exact hdropped owner (hm.trans (hm'.symm.trans hn))

/-- Coordinators and signals are triggered exactly when a coordinator of their origin was, and for
good. A wait for a signal is over at those moments and no others, whether or not its coordinators
are still there. -/
theorem shutdown_follows_lineage :
    (∀ history h, (empty.steps history).triggered h = true ↔
      ∃ n, origin? history.reverse h = some n ∧ Called history n) ∧
    (∀ history later g h n, origin? history.reverse g = some n →
      origin? (history ++ later).reverse h = some n → (empty.steps history).triggered g = true →
      (empty.steps (history ++ later)).triggered h = true) ∧
    (∀ history owner h, origin? history.reverse (.owner owner) ≠ origin? history.reverse h →
      (empty.steps (history ++ [.trigger owner])).triggered h =
        (empty.steps history).triggered h) ∧
    (∀ history signal,
      (empty.steps history).cancelled signal = (empty.steps history).triggered (.signal signal)) ∧
    ∀ history later signal channel n v, (empty.steps history).signal? signal = some channel →
      origin? history.reverse (.signal signal) = some n →
      Attends channel (empty.steps history) .watching later v →
      (((empty.steps history).awaitRaised? channel later).isSome = true ↔
        Called (history ++ later) n) ∧
      (∃ w, Look (empty.steps (history ++ later)) channel v w) ∧
      (∀ w, Look (empty.steps (history ++ later)) channel v w →
        (w = .ended ↔ Called (history ++ later) n)) ∧
      ((∀ owner, origin? history.reverse (.owner owner) ≠ some n) →
        (empty.steps history).triggered (.signal signal) = false →
        v ≠ .ended ∧ ¬ Called (history ++ later) n) ∧
      ∀ name, history[n]? = some (.never name) → v ≠ .ended ∧ ¬ Called (history ++ later) n := by
  refine ⟨fun _ _ => triggered_steps_iff, fun _ _ _ _ _ => triggered_steps_append,
    fun _ _ _ => triggered_steps_trigger, fun _ _ => cancelled_eq _ _, ?_⟩
  intro history later signal channel n v hsignal hn hattends
  have hcalled : (empty.steps (history ++ later)).raised channel = true ↔
      Called (history ++ later) n :=
    raised_steps_iff_called (h := .signal signal) hsignal hn
  have hfound := (found_of_signal? hsignal).attends hattends
  rw [← steps_append] at hfound
  have hopen (hdown : ¬ Called (history ++ later) n) : v ≠ .ended := by
    rintro rfl
    exact hdown (hcalled.1 hfound)
  refine ⟨?_, exists_look _ _ _, fun w hlook => (hfound.look_ended_iff hlook).trans hcalled, ?_, ?_⟩
  · rw [isSome_awaitRaised?, ← steps_append]
    exact hcalled
  · intro hdropped hquiet
    have hdown : (empty.steps history).raised channel = false := by
      have hsame : (empty.steps history).channel? (.signal signal) = some channel := hsignal
      rwa [triggered_eq, hsame] at hquiet
    have hstays := (deserted_of_origin? hsignal hn hdropped).raised_steps_eq_false hdown later
    rw [← steps_append] at hstays
    have hnot : ¬ Called (history ++ later) n := by
      rw [← hcalled, hstays]
      exact Bool.false_ne_true
    exact ⟨hopen hnot, hnot⟩
  · intro name hnever
    have hlt := (List.getElem?_eq_some_iff.1 hnever).1
    have hnot : ¬ Called (history ++ later) n :=
      not_called_of_never ((List.getElem?_append_left hlt).trans hnever)
    exact ⟨hopen hnot, hnot⟩

theorem shutdown_follows_lineage_sample :
    let shared : List ShutdownStep := [.create "a", .cloneOwner "b" "a", .subscribe "s" "a"]
    let ending : List ShutdownStep := [.dropOwner "a", .trigger "b", .dropOwner "b"]
    let deserted : List ShutdownStep := [.create "a", .subscribe "s" "a", .dropOwner "a"]
    let renewed : List ShutdownStep := [.create "a", .trigger "a"]
    (empty.steps (shared ++ ending)).triggered (.signal "s") = true ∧
    (∀ later, origin? (shared ++ ending ++ later).reverse (.signal "s") = some 0 →
      (empty.steps (shared ++ ending ++ later)).triggered (.signal "s") = true) ∧
    ((empty.steps shared).awaitRaised? 0 ending).isSome = true ∧
    (empty.steps deserted).signal? "s" = some 0 ∧
    Attends 0 (empty.steps deserted) .watching renewed .parked ∧ ¬ Called (deserted ++ renewed) 0 ∧
    (empty.steps [.never "s", .create "a", .trigger "a"]).cancelled "s" = false := by
  intro shared ending deserted renewed
  obtain ⟨htriggered, hlasting, -, hcancelled, hwaiting⟩ := shutdown_follows_lineage
  have hshared : (empty.steps (shared ++ ending)).triggered (.signal "s") = true :=
    (htriggered _ _).2 ⟨0, by decide, shared ++ [.dropOwner "a"], "b", [.dropOwner "b"], rfl,
      by decide⟩
  have hsolely : ∀ owner, origin? deserted.reverse (.owner owner) ≠ some 0 := by
    intro owner
    by_cases h : owner = "a" <;> simp [deserted, origin?, h]
  have hattends : Attends 0 (empty.steps deserted) .watching renewed .parked := by
    refine .look (.lost rfl fun owner howner => ?_) (.step (.step .nil))
    by_cases h : owner = "a" <;> simp [deserted, step, put, empty, h] at howner
  refine ⟨hshared, fun later hlater => hlasting _ later (.signal "s") _ 0 (by decide) hlater
    hshared, ?_, by decide, hattends, ?_, ?_⟩
  · exact (hwaiting shared ending "s" 0 0 .watching (by decide) (by decide)
      (.step (.step (.step .nil)))).1.2
      ⟨shared ++ [.dropOwner "a"], "b", [.dropOwner "b"], rfl, by decide⟩
  · exact ((hwaiting deserted renewed "s" 0 0 .parked (by decide) (by decide) hattends).2.2.2.1
      hsolely (by decide)).2
  · rw [hcancelled]
    decide

end Courier.Switchboard
