import Courier.Proofs.Dialogue.Yields

/-!
Dialogues side by side, in every order. An entry of the common log stands at the moment at which
its answer comes, so questions of different dialogues may be open at the same time. To each
dialogue its own entries are a way through it, and all of them come to an end.
-/
namespace Courier.Dialogue

/-- Questions with their answers, each with the place of the dialogue that asked it. -/
abbrev SharedLog (Q : Type) (A : Q → Type) : Type :=
  List (Nat × ((q : Q) × A q))

variable {Q : Type} {A : Q → Type} {α : Type}

/-- One of the dialogues gets the answer to its question. -/
inductive Turn : List (Dialogue Q A α) → Nat × ((q : Q) × A q) → List (Dialogue Q A α) → Prop where
  | mk {ds : List (Dialogue Q A α)} {who : Nat} {q : Q} {next : A q → Dialogue Q A α}
      (h : ds[who]? = some (.ask q next)) (answer : A q) :
      Turn ds (who, ⟨q, answer⟩) (ds.set who (next answer))

inductive SideBySide :
    List (Dialogue Q A α) → SharedLog Q A → List (Dialogue Q A α) → Prop where
  | nil {ds : List (Dialogue Q A α)} : SideBySide ds [] ds
  | cons {ds es fs : List (Dialogue Q A α)} {e : Nat × ((q : Q) × A q)} {log : SharedLog Q A}
      (h : Turn ds e es) (rest : SideBySide es log fs) : SideBySide ds (e :: log) fs

def partOf (who : Nat) (log : SharedLog Q A) : List ((q : Q) × A q) :=
  log.filterMap fun e => if e.1 = who then some e.2 else none

theorem partOf_cons_self (who : Nat) (e : (q : Q) × A q) (log : SharedLog Q A) :
    partOf who ((who, e) :: log) = e :: partOf who log := by
  simp [partOf]

theorem partOf_cons_of_ne {i who : Nat} (h : i ≠ who) (e : (q : Q) × A q)
    (log : SharedLog Q A) : partOf who ((i, e) :: log) = partOf who log := by
  simp [partOf, h]

variable {ds es fs : List (Dialogue Q A α)} {d : Dialogue Q A α} {e : Nat × ((q : Q) × A q)}
  {log : SharedLog Q A}

theorem Turn.length_eq (h : Turn ds e es) : es.length = ds.length := by
  cases h
  exact List.length_set

theorem SideBySide.length_eq (h : SideBySide ds log es) : es.length = ds.length := by
  induction h with
  | nil => rfl
  | cons h _ ih => exact ih.trans h.length_eq

/-- What a turn does to each of the dialogues: its question is answered, or it stays as it is. -/
theorem Turn.getElem? (h : Turn ds e es) {who : Nat} (hd : ds[who]? = some d) :
    (∃ q next answer, d = .ask q next ∧ e = (who, ⟨q, answer⟩) ∧
      es[who]? = some (next answer)) ∨ e.1 ≠ who ∧ es[who]? = some d := by
  cases h with
  | @mk i q next hi answer =>
    by_cases hwho : i = who
    · subst hwho
      obtain rfl := Option.some.inj (hi.symm.trans hd)
      have hlt := (List.getElem?_eq_some_iff.1 hi).1
      exact .inl ⟨q, next, answer, rfl, rfl, by simp [hlt]⟩
    · exact .inr ⟨hwho, by simp [hwho, hd]⟩

/-- When all dialogues are over, the entries of each of them led to its value. -/
theorem SideBySide.yields {values : List α} (h : SideBySide ds log (values.map .done))
    {who : Nat} (hd : ds[who]? = some d) :
    ∃ value, values[who]? = some value ∧ d.Yields (partOf who log) value := by
  generalize hend : (values.map .done : List (Dialogue Q A α)) = es at h
  induction h generalizing d with
  | nil =>
    rw [← hend, List.getElem?_map, Option.map_eq_some_iff] at hd
    obtain ⟨value, hvalue, rfl⟩ := hd
    exact ⟨value, hvalue, .done value⟩
  | cons h _ ih =>
    rcases h.getElem? hd with ⟨q, next, answer, rfl, rfl, hnext⟩ | ⟨hne, hstay⟩
    · obtain ⟨value, hvalue, hyields⟩ := ih hnext hend
      rw [partOf_cons_self]
      exact ⟨value, hvalue, .ask answer hyields⟩
    · obtain ⟨value, hvalue, hyields⟩ := ih hstay hend
      rw [partOf_cons_of_ne hne]
      exact ⟨value, hvalue, hyields⟩

theorem SideBySide.append {more : SharedLog Q A} (h : SideBySide ds log es)
    (hmore : SideBySide es more fs) : SideBySide ds (log ++ more) fs := by
  induction h with
  | nil => exact hmore
  | cons h _ ih => exact .cons h (ih hmore)

/-- The entries of a log when one more dialogue stands in front. -/
def SharedLog.behindOne (log : SharedLog Q A) : SharedLog Q A :=
  log.map fun e => (e.1 + 1, e.2)

theorem Turn.behindOne (h : Turn ds e es) (d : Dialogue Q A α) :
    Turn (d :: ds) (e.1 + 1, e.2) (d :: es) := by
  cases h with
  | @mk who q next hwho answer =>
    have hbehind : (d :: ds)[who + 1]? = some (.ask q next) := hwho
    exact .mk hbehind answer

theorem SideBySide.behindOne (h : SideBySide ds log es) (d : Dialogue Q A α) :
    SideBySide (d :: ds) log.behindOne (d :: es) := by
  induction h with
  | nil => exact .nil
  | cons h _ ih => exact .cons (h.behindOne d) ih

/-- The first dialogue may be held to its end before the others. -/
theorem Yields.sideBySide {t : List ((q : Q) × A q)} {value : α} (h : d.Yields t value)
    (ds : List (Dialogue Q A α)) :
    SideBySide (d :: ds) (t.map (0, ·)) (.done value :: ds) := by
  induction h with
  | done value => exact .nil
  | ask answer _ ih => exact .cons (.mk rfl answer) ih

/-- Dialogues that are held one after the other are held side by side. -/
theorem sideBySide_of_yields_traverse {t : List ((q : Q) × A q)} {values : List α}
    (h : (traverse id ds).Yields t values) :
    ∃ log : SharedLog Q A, log.map Prod.snd = t ∧ SideBySide ds log (values.map .done) := by
  induction ds generalizing t values with
  | nil =>
    obtain ⟨rfl, rfl⟩ := yields_done.1 h
    exact ⟨[], rfl, .nil⟩
  | cons d ds ih =>
    obtain ⟨u, v, value, rest, rfl, rfl, hu, hv⟩ := yields_traverse_cons.1 h
    obtain ⟨log, rfl, hlog⟩ := ih hv
    refine ⟨u.map (0, ·) ++ log.behindOne, ?_, (hu.sideBySide ds).append (hlog.behindOne _)⟩
    simp [SharedLog.behindOne, Function.comp_def]

/-- From wherever they have come to, dialogues whose questions have answers can be brought to their
end. -/
theorem exists_sideBySide_done [∀ q, Nonempty (A q)] (ds : List (Dialogue Q A α)) :
    ∃ (log : SharedLog Q A) (values : List α), SideBySide ds log (values.map .done) := by
  let answer (q : Q) (s : Unit) : A q × Unit := (Classical.choice inferInstance, s)
  obtain ⟨log, -, h⟩ := sideBySide_of_yields_traverse (yields_transcript answer (traverse id ds) ())
  exact ⟨log, _, h⟩

def After (later now : List (Dialogue Q A α)) : Prop :=
  ∃ e, Turn now e later

theorem after_cons {later : List (Dialogue Q A α)} (h : After later (d :: ds)) :
    (∃ q next answer, d = .ask q next ∧ later = next answer :: ds) ∨
      ∃ es, After es ds ∧ later = d :: es := by
  obtain ⟨_, h⟩ := h
  cases h with
  | @mk who q next hwho answer =>
    cases who with
    | zero => exact .inl ⟨q, next, answer, Option.some.inj hwho, rfl⟩
    | succ who =>
      have hrest : ds[who]? = some (.ask q next) := hwho
      exact .inr ⟨_, ⟨_, .mk hrest answer⟩, rfl⟩

theorem acc_after_cons
    (hd : ∀ q next answer es, d = .ask q next → Acc After es → Acc After (next answer :: es))
    (h : Acc After ds) : Acc After (d :: ds) := by
  induction h with
  | intro ds hds ih =>
    refine .intro _ fun later hlater => ?_
    rcases after_cons hlater with ⟨q, next, answer, hask, rfl⟩ | ⟨es, hes, rfl⟩
    · exact hd q next answer ds hask (.intro ds hds)
    · exact ih es hes

/-- No dialogues go on forever, in whatever order they take their turns. -/
theorem acc_after (ds : List (Dialogue Q A α)) : Acc After ds := by
  induction ds with
  | nil =>
    refine .intro _ fun later ⟨_, h⟩ => ?_
    cases h with
    | mk hwho _ => cases hwho
  | cons d ds ih =>
    -- Each answer leaves a smaller dialogue in front, or the others have come further.
    induction d generalizing ds with
    | done value => exact acc_after_cons (fun _ _ _ _ hask => by cases hask) ih
    | ask q next ihd =>
      refine acc_after_cons (fun _ _ answer es hask hes => ?_) ih
      cases hask
      exact ihd answer es hes

end Courier.Dialogue
