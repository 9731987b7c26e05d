import Courier.Dialogue
import Mathlib.Data.List.Basic

/-!
The ways through a dialogue. Whatever the surroundings do, a run is one of them, so what holds of
all ways holds of every run against every state.
-/
namespace Courier.Dialogue

variable {Q Q' : Type} {A : Q → Type} {A' : Q' → Type} {α β ε : Type}

/-- These questions and answers lead through a dialogue to a value. -/
inductive Yields : Dialogue Q A α → List ((q : Q) × A q) → α → Prop where
  | done (value : α) : Yields (.done value) [] value
  | ask {q : Q} {next : A q → Dialogue Q A α} (answer : A q) {t : List ((q : Q) × A q)} {a : α}
      (rest : Yields (next answer) t a) : Yields (.ask q next) (⟨q, answer⟩ :: t) a

/-- A run is a way through its dialogue. -/
theorem yields_transcript {σ : Type} (answer : (q : Q) → σ → A q × σ) (d : Dialogue Q A α)
    (s : σ) : d.Yields (d.transcript answer s) (d.run answer s).1 := by
  induction d generalizing s with
  | done a => exact .done a
  | ask q next ih => exact .ask _ (ih _ _)

@[simp] theorem yields_done {a b : α} {t : List ((q : Q) × A q)} :
    (done a : Dialogue Q A α).Yields t b ↔ t = [] ∧ b = a := by
  constructor
  · rintro ⟨⟩
    exact ⟨rfl, rfl⟩
  · rintro ⟨rfl, rfl⟩
    exact .done _

theorem yields_ask {q : Q} {next : A q → Dialogue Q A α} {t : List ((q : Q) × A q)} {a : α} :
    (ask q next).Yields t a ↔
      ∃ answer rest, t = ⟨q, answer⟩ :: rest ∧ (next answer).Yields rest a := by
  constructor
  · intro h
    cases h with
    | ask answer rest => exact ⟨answer, _, rfl, rest⟩
  · rintro ⟨answer, rest, rfl, h⟩
    exact .ask answer h

theorem yields_question {q : Q} {answer : A q} {t : List ((q : Q) × A q)} :
    (question q : Dialogue Q A (A q)).Yields t answer ↔ t = [⟨q, answer⟩] := by
  unfold question
  rw [yields_ask]
  constructor
  · rintro ⟨reply, rest, rfl, h⟩
    obtain ⟨rfl, rfl⟩ := yields_done.1 h
    rfl
  · rintro rfl
    exact ⟨answer, [], rfl, .done _⟩

/-- No way through a dialogue is the beginning of another. -/
theorem Yields.unique {d : Dialogue Q A α} {t t' u u' : List ((q : Q) × A q)} {a b : α}
    (h : d.Yields t a) (h' : d.Yields t' b) (heq : t ++ u = t' ++ u') : t = t' ∧ a = b := by
  induction d generalizing t t' with
  | done c =>
    obtain ⟨rfl, rfl⟩ := yields_done.1 h
    obtain ⟨rfl, rfl⟩ := yields_done.1 h'
    exact ⟨rfl, rfl⟩
  | ask q next ih =>
    obtain ⟨answer, rest, rfl, hrest⟩ := yields_ask.1 h
    obtain ⟨answer', rest', rfl, hrest'⟩ := yields_ask.1 h'
    -- The answers agree, so both ways go on through the same dialogue.
    obtain ⟨hhead, htail⟩ := List.cons.inj heq
    cases hhead
    obtain ⟨rfl, hvalue⟩ := ih answer hrest hrest' htail
    exact ⟨rfl, hvalue⟩

/-- A way through a dialogue leads to one value. -/
theorem Yields.value_unique {d : Dialogue Q A α} {t : List ((q : Q) × A q)} {a b : α}
    (h : d.Yields t a) (h' : d.Yields t b) : a = b := by
  have hsame : t ++ [] = t ++ [] := rfl
  exact (h.unique h' hsame).2

/-- A way through a dialogue and its sequel passes through a value of the first. -/
theorem yields_bind {d : Dialogue Q A α} {next : α → Dialogue Q A β}
    {t : List ((q : Q) × A q)} {b : β} :
    (d.bind next).Yields t b ↔
      ∃ u v a, t = u ++ v ∧ d.Yields u a ∧ (next a).Yields v b := by
  induction d generalizing t with
  | done a => simp [bind]
  | ask q k ih =>
    simp only [bind, yields_ask, ih]
    constructor
    · rintro ⟨answer, _, rfl, u, v, a, rfl, hu, hv⟩
      exact ⟨⟨q, answer⟩ :: u, v, a, rfl, ⟨answer, u, rfl, hu⟩, hv⟩
    · rintro ⟨_, v, a, rfl, ⟨answer, u, rfl, hu⟩, hv⟩
      exact ⟨answer, u ++ v, rfl, u, v, a, rfl, hu, hv⟩

/-- Either the first dialogue succeeds and the sequel follows, or its error decides the end. -/
theorem yields_bind_except {k : Except ε α → Dialogue Q A β} (next : α → Dialogue Q A β)
    (stop : ε → β) (hok : ∀ a, k (.ok a) = next a) (herror : ∀ e, k (.error e) = .done (stop e))
    {d : Dialogue Q A (Except ε α)} {t : List ((q : Q) × A q)} {b : β} :
    (d.bind k).Yields t b ↔
      (∃ u v a, t = u ++ v ∧ d.Yields u (.ok a) ∧ (next a).Yields v b) ∨
        ∃ e, b = stop e ∧ d.Yields t (.error e) := by
  rw [yields_bind]
  constructor
  · rintro ⟨u, v, a, rfl, hu, hv⟩
    cases a with
    | ok a => exact .inl ⟨u, v, a, rfl, hu, hok a ▸ hv⟩
    | error e =>
      rw [herror] at hv
      obtain ⟨rfl, rfl⟩ := yields_done.1 hv
      exact .inr ⟨e, rfl, by simpa using hu⟩
  · rintro (⟨u, v, a, rfl, hu, hv⟩ | ⟨e, rfl, h⟩)
    · exact ⟨u, v, .ok a, rfl, hu, hok a ▸ hv⟩
    · exact ⟨t, [], .error e, by simp, h, herror e ▸ .done _⟩

theorem yields_andThen {d : Dialogue Q A (Except ε α)} {next : α → Dialogue Q A (Except ε β)}
    {t : List ((q : Q) × A q)} {r : Except ε β} :
    (d.andThen next).Yields t r ↔
      (∃ u v a, t = u ++ v ∧ d.Yields u (.ok a) ∧ (next a).Yields v r) ∨
        ∃ e, r = .error e ∧ d.Yields t (.error e) := by
  unfold andThen
  refine yields_bind_except next .error ?_ ?_ <;> intro _ <;> rfl

/-- A way through a sequence of dialogues passes through a value of the first. -/
theorem yields_traverse_cons {ι : Type} {f : ι → Dialogue Q A α} {i : ι} {l : List ι}
    {t : List ((q : Q) × A q)} {as : List α} :
    (traverse f (i :: l)).Yields t as ↔
      ∃ u v a rest, t = u ++ v ∧ as = a :: rest ∧ (f i).Yields u a ∧
        (traverse f l).Yields v rest := by
  rw [traverse]
  constructor
  · intro h
    obtain ⟨u, v, a, rfl, hu, hv⟩ := yields_bind.1 h
    obtain ⟨w, x, rest, rfl, hw, hx⟩ := yields_bind.1 hv
    obtain ⟨rfl, rfl⟩ := yields_done.1 hx
    exact ⟨u, w, a, rest, by rw [List.append_nil], rfl, hu, hw⟩
  · rintro ⟨u, v, a, rest, rfl, rfl, hu, hv⟩
    refine yields_bind.2 ⟨u, v, a, rfl, hu, ?_⟩
    exact yields_bind.2 ⟨v, [], rest, (List.append_nil v).symm, hv, .done _⟩

/-- A log whose questions were replaced, read as one way through the replacement for each of them. -/
inductive Refines (f : (q : Q) → Dialogue Q' A' (A q)) :
    List ((q : Q) × A q) → List ((q : Q') × A' q) → Prop where
  | nil : Refines f [] []
  | cons {q : Q} {answer : A q} {u t : List ((q : Q') × A' q)} {l : List ((q : Q) × A q)}
      (head : (f q).Yields u answer) (tail : Refines f l t) :
      Refines f (⟨q, answer⟩ :: l) (u ++ t)

variable {f : (q : Q) → Dialogue Q' A' (A q)}

theorem refines_cons {q : Q} {answer : A q} {l : List ((q : Q) × A q)}
    {t : List ((q : Q') × A' q)} :
    Refines f (⟨q, answer⟩ :: l) t ↔
      ∃ u v, t = u ++ v ∧ (f q).Yields u answer ∧ Refines f l v := by
  constructor
  · intro h
    cases h with
    | cons head tail => exact ⟨_, _, rfl, head, tail⟩
  · rintro ⟨u, v, rfl, head, tail⟩
    exact .cons head tail

theorem refines_append {a b : List ((q : Q) × A q)} {t : List ((q : Q') × A' q)} :
    Refines f (a ++ b) t ↔ ∃ u v, t = u ++ v ∧ Refines f a u ∧ Refines f b v := by
  induction a generalizing t with
  | nil =>
    constructor
    · intro h
      exact ⟨[], t, rfl, .nil, h⟩
    · rintro ⟨u, v, rfl, ⟨⟩, hb⟩
      exact hb
  | cons e a ih =>
    obtain ⟨q, answer⟩ := e
    simp only [List.cons_append, refines_cons, ih]
    constructor
    · rintro ⟨u, _, rfl, hq, v, w, rfl, ha, hb⟩
      exact ⟨u ++ v, w, by simp, ⟨u, v, rfl, hq, ha⟩, hb⟩
    · rintro ⟨_, w, rfl, ⟨u, v, rfl, hq, ha⟩, hb⟩
      exact ⟨u, v ++ w, by simp, hq, v, w, rfl, ha, hb⟩

/-- Every entry of a log has its own part in what the log became. -/
theorem exists_part_of_refines {e : (q : Q) × A q} {l : List ((q : Q) × A q)}
    {t : List ((q : Q') × A' q)} (h : Refines f l t) (he : e ∈ l) :
    ∃ u v w, t = u ++ (v ++ w) ∧ (f e.1).Yields v e.2 := by
  obtain ⟨a, b, rfl⟩ := List.append_of_mem he
  obtain ⟨u, _, rfl, -, hb⟩ := refines_append.1 h
  obtain ⟨v, w, rfl, hv, -⟩ := refines_cons.1 hb
  exact ⟨u, v, w, rfl, hv⟩

/-- A way through a dialogue with replaced questions refines one through the dialogue itself. -/
theorem yields_substitute {d : Dialogue Q A α} {t : List ((q : Q') × A' q)} {a : α} :
    (d.substitute f).Yields t a ↔ ∃ l, d.Yields l a ∧ Refines f l t := by
  induction d generalizing t with
  | done b =>
    simp only [substitute, yields_done]
    constructor
    · rintro ⟨rfl, rfl⟩
      exact ⟨[], ⟨rfl, rfl⟩, .nil⟩
    · rintro ⟨_, ⟨rfl, rfl⟩, ⟨⟩⟩
      exact ⟨rfl, rfl⟩
  | ask q next ih =>
    simp only [substitute, yields_bind, yields_ask, ih]
    constructor
    · rintro ⟨u, v, answer, rfl, hu, l, hl, hv⟩
      exact ⟨⟨q, answer⟩ :: l, ⟨answer, l, rfl, hl⟩, .cons hu hv⟩
    · rintro ⟨_, ⟨answer, l, rfl, hl⟩, h⟩
      obtain ⟨u, v, rfl, hu, hv⟩ := refines_cons.1 h
      exact ⟨u, v, answer, rfl, hu, l, hl, hv⟩

end Courier.Dialogue
