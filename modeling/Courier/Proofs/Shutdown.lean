import Courier.Shutdown
import Mathlib.Tactic.Common

/-!
What a history of coordinators and signals comes to: a channel is raised exactly when one of its
coordinators was triggered, and a channel without coordinators never gets one again.
-/
namespace Courier.Switchboard

@[simp] theorem steps_nil (s : Switchboard) : s.steps [] = s := rfl

@[simp] theorem steps_cons (s : Switchboard) (a : ShutdownStep) (history : List ShutdownStep) :
    s.steps (a :: history) = (s.step a).steps history := rfl

theorem steps_append (s : Switchboard) (before after : List ShutdownStep) :
    s.steps (before ++ after) = (s.steps before).steps after :=
  List.foldl_append

/-- A step raises only the channel of a coordinator that it triggers. -/
theorem raised_step_iff {s : Switchboard} {a : ShutdownStep} {channel : Nat} :
    (s.step a).raised channel = true ↔
      s.raised channel = true ∨ ∃ owner, a = .trigger owner ∧ s.owner? owner = some channel := by
  cases a with
  | trigger owner =>
    cases h : s.owner? owner with
    | none => simp [step, h]
    | some c =>
      by_cases hc : channel = c
      · subst hc
        simp [step, h, put]
      · have hne : ¬ c = channel := fun e => hc e.symm
        simp [step, h, put, hc, hne]
  | create | never => simp [step]
  | dropOwner => simp [step]
  | cloneOwner owner source => cases h : s.owner? source <;> simp [step, h]
  | subscribe signal source => cases h : s.owner? source <;> simp [step, h]
  | cloneSignal signal source => cases h : s.signal? source <;> simp [step, h]

/-- A raised channel was raised from the start, or one of its coordinators was triggered. -/
theorem raised_steps_iff {s : Switchboard} {history : List ShutdownStep} {channel : Nat} :
    (s.steps history).raised channel = true ↔
      s.raised channel = true ∨ ∃ before owner after, history = before ++ .trigger owner :: after ∧
        (s.steps before).owner? owner = some channel := by
  induction history generalizing s with
  | nil => simp
  | cons a history ih =>
    rw [steps_cons, ih, raised_step_iff]
    constructor
    · rintro ((h | ⟨owner, rfl, ho⟩) | ⟨before, owner, after, rfl, ho⟩)
      · exact .inl h
      · exact .inr ⟨[], owner, history, rfl, ho⟩
      · exact .inr ⟨a :: before, owner, after, rfl, ho⟩
    · rintro (h | ⟨before, owner, after, heq, ho⟩)
      · exact .inl (.inl h)
      · cases before with
        | nil =>
          obtain ⟨rfl, rfl⟩ := List.cons.inj heq
          exact .inl (.inr ⟨owner, rfl, ho⟩)
        | cons b before =>
          obtain ⟨rfl, rfl⟩ := List.cons.inj heq
          exact .inr ⟨before, owner, after, rfl, ho⟩

/-- Once raised, a channel stays so. -/
theorem raised_steps_of_raised {s : Switchboard} {channel : Nat} (h : s.raised channel = true)
    (history : List ShutdownStep) : (s.steps history).raised channel = true :=
  raised_steps_iff.2 (.inl h)

/-- A coordinator has the channel of an earlier one, or opens the next channel. -/
theorem owner?_step {s : Switchboard} {a : ShutdownStep} {name : String} {channel : Nat}
    (h : (s.step a).owner? name = some channel) :
    (∃ old, s.owner? old = some channel) ∨ channel = s.fresh ∧ s.fresh < (s.step a).fresh := by
  cases a with
  | create owner =>
    simp only [step, put] at h ⊢
    split at h
    · exact .inr ⟨(Option.some.inj h).symm, Nat.lt_succ_self _⟩
    · exact .inl ⟨name, h⟩
  | cloneOwner owner source =>
    cases hs : s.owner? source with
    | none => exact .inl ⟨name, by simpa only [step, hs] using h⟩
    | some c =>
      simp only [step, hs, put] at h
      split at h
      · exact .inl ⟨source, hs.trans h⟩
      · exact .inl ⟨name, h⟩
  | dropOwner owner =>
    simp only [step, put] at h
    split at h
    · cases h
    · exact .inl ⟨name, h⟩
  | subscribe signal source =>
    cases hs : s.owner? source <;> exact .inl ⟨name, by simpa only [step, hs] using h⟩
  | never signal => exact .inl ⟨name, h⟩
  | cloneSignal signal source =>
    cases hs : s.signal? source <;> exact .inl ⟨name, by simpa only [step, hs] using h⟩
  | trigger owner =>
    cases ho : s.owner? owner <;> exact .inl ⟨name, by simpa only [step, ho] using h⟩

/-- A signal has the channel of a coordinator or of another signal, or opens the next channel. -/
theorem signal?_step {s : Switchboard} {a : ShutdownStep} {name : String} {channel : Nat}
    (h : (s.step a).signal? name = some channel) :
    (∃ old, s.signal? old = some channel) ∨ (∃ owner, s.owner? owner = some channel) ∨
      channel = s.fresh ∧ s.fresh < (s.step a).fresh := by
  cases a with
  | create | dropOwner => exact .inl ⟨name, h⟩
  | cloneOwner owner source =>
    cases hs : s.owner? source <;> exact .inl ⟨name, by simpa only [step, hs] using h⟩
  | subscribe signal source =>
    cases hs : s.owner? source with
    | none => exact .inl ⟨name, by simpa only [step, hs] using h⟩
    | some c =>
      simp only [step, hs, put] at h
      split at h
      · exact .inr (.inl ⟨source, hs.trans h⟩)
      · exact .inl ⟨name, h⟩
  | never signal =>
    simp only [step, put] at h ⊢
    split at h
    · exact .inr (.inr ⟨(Option.some.inj h).symm, Nat.lt_succ_self _⟩)
    · exact .inl ⟨name, h⟩
  | cloneSignal signal source =>
    cases hs : s.signal? source with
    | none => exact .inl ⟨name, by simpa only [step, hs] using h⟩
    | some c =>
      simp only [step, hs, put] at h
      split at h
      · exact .inl ⟨source, hs.trans h⟩
      · exact .inl ⟨name, h⟩
  | trigger owner =>
    cases ho : s.owner? owner <;> exact .inl ⟨name, by simpa only [step, ho] using h⟩

theorem fresh_le_step (s : Switchboard) (a : ShutdownStep) : s.fresh ≤ (s.step a).fresh := by
  cases a with
  | create | never => exact Nat.le_succ _
  | dropOwner => exact Nat.le_refl _
  | cloneOwner owner source => cases h : s.owner? source <;> simp [step, h]
  | subscribe signal source => cases h : s.owner? source <;> simp [step, h]
  | cloneSignal signal source => cases h : s.signal? source <;> simp [step, h]
  | trigger owner => cases h : s.owner? owner <;> simp [step, h]

theorem fresh_le_steps (s : Switchboard) (history : List ShutdownStep) :
    s.fresh ≤ (s.steps history).fresh := by
  induction history generalizing s with
  | nil => exact Nat.le_refl _
  | cons a history ih => exact Nat.le_trans (fresh_le_step s a) (ih _)

def Deserted (s : Switchboard) (channel : Nat) : Prop :=
  channel < s.fresh ∧ ∀ owner, s.owner? owner ≠ some channel

theorem Deserted.step {s : Switchboard} {channel : Nat} (h : s.Deserted channel)
    (a : ShutdownStep) : (s.step a).Deserted channel := by
  refine ⟨Nat.lt_of_lt_of_le h.1 (fresh_le_step s a), fun owner ho => ?_⟩
  rcases owner?_step ho with ⟨old, hold⟩ | ⟨rfl, -⟩
  · exact h.2 old hold
  · exact Nat.lt_irrefl _ h.1

theorem Deserted.steps {s : Switchboard} {channel : Nat} (h : s.Deserted channel)
    (history : List ShutdownStep) : (s.steps history).Deserted channel := by
  induction history generalizing s with
  | nil => exact h
  | cons a history ih => exact ih (h.step a)

/-- A deserted channel that is not raised stays so. -/
theorem Deserted.raised_steps_eq_false {s : Switchboard} {channel : Nat}
    (h : s.Deserted channel) (hdown : s.raised channel = false) (history : List ShutdownStep) :
    (s.steps history).raised channel = false := by
  rw [← Bool.not_eq_true, raised_steps_iff]
  rintro (hup | ⟨before, owner, _, _, ho⟩)
  · simp [hdown] at hup
  · exact (h.steps before).2 owner ho

/-- Coordinators and signals have channels that were opened, and only such channels are raised. -/
structure Sound (s : Switchboard) : Prop where
  owner_lt : ∀ name channel, s.owner? name = some channel → channel < s.fresh
  signal_lt : ∀ name channel, s.signal? name = some channel → channel < s.fresh
  raised_lt : ∀ channel, s.raised channel = true → channel < s.fresh

theorem sound_empty : empty.Sound where
  owner_lt _ _ h := by cases h
  signal_lt _ _ h := by cases h
  raised_lt _ h := by cases h

theorem Sound.step {s : Switchboard} (h : s.Sound) (a : ShutdownStep) : (s.step a).Sound where
  owner_lt name channel ho := by
    rcases owner?_step ho with ⟨old, hold⟩ | ⟨rfl, hlt⟩
    · exact Nat.lt_of_lt_of_le (h.owner_lt old channel hold) (fresh_le_step s a)
    · exact hlt
  signal_lt name channel hs := by
    rcases signal?_step hs with ⟨old, hold⟩ | ⟨owner, ho⟩ | ⟨rfl, hlt⟩
    · exact Nat.lt_of_lt_of_le (h.signal_lt old channel hold) (fresh_le_step s a)
    · exact Nat.lt_of_lt_of_le (h.owner_lt owner channel ho) (fresh_le_step s a)
    · exact hlt
  raised_lt channel hr := by
    refine Nat.lt_of_lt_of_le ?_ (fresh_le_step s a)
    rcases raised_step_iff.1 hr with hup | ⟨owner, -, ho⟩
    · exact h.raised_lt channel hup
    · exact h.owner_lt owner channel ho

theorem Sound.steps {s : Switchboard} (h : s.Sound) (history : List ShutdownStep) :
    (s.steps history).Sound := by
  induction history generalizing s with
  | nil => exact h
  | cons a history ih => exact ih (h.step a)

theorem sound_steps (history : List ShutdownStep) : (empty.steps history).Sound :=
  sound_empty.steps history

/-- A signal that never fires has a channel of its own, without coordinators and not raised. -/
theorem Sound.deserted_never {s : Switchboard} (h : s.Sound) {signal : String} {channel : Nat}
    (hsignal : (s.step (.never signal)).signal? signal = some channel) :
    (s.step (.never signal)).Deserted channel ∧
      (s.step (.never signal)).raised channel = false := by
  obtain rfl : s.fresh = channel := by simpa [Switchboard.step, put] using hsignal
  refine ⟨⟨Nat.lt_succ_self _, fun owner ho => ?_⟩, ?_⟩
  · exact Nat.lt_irrefl _ (h.owner_lt owner _ ho)
  · rw [← Bool.not_eq_true]
    exact fun hr => Nat.lt_irrefl _ (h.raised_lt _ hr)

end Courier.Switchboard
