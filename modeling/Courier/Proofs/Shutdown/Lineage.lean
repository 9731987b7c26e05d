import Courier.Proofs.Shutdown
import Mathlib.Data.List.Basic

/-!
Where coordinators and signals come from. A handle is triggered exactly when a coordinator of the
same origin was triggered before, whatever else was created, cloned, replaced or dropped.
-/
namespace Courier.Switchboard

inductive Handle where
  | owner (name : String)
  | signal (name : String)
deriving DecidableEq, Repr

def channel? (s : Switchboard) : Handle → Option Nat
  | .owner name => s.owner? name
  | .signal name => s.signal? name

def triggered (s : Switchboard) : Handle → Bool
  | .owner name => s.ownerTriggered name
  | .signal name => s.signalTriggered name

/-- Which step of a past, told from its latest step on, opened the channel of a handle. Copies and
subscriptions go back to what they were taken from, as long as it was there. -/
def origin? : List ShutdownStep → Handle → Option Nat
  | [], _ => none
  | .create owner :: past, h => if h = .owner owner then some past.length else origin? past h
  | .never signal :: past, h => if h = .signal signal then some past.length else origin? past h
  | .cloneOwner owner source :: past, h =>
    if h = .owner owner then (origin? past (.owner source)).or (origin? past h)
    else origin? past h
  | .subscribe signal source :: past, h =>
    if h = .signal signal then (origin? past (.owner source)).or (origin? past h)
    else origin? past h
  | .cloneSignal signal source :: past, h =>
    if h = .signal signal then (origin? past (.signal source)).or (origin? past h)
    else origin? past h
  | .dropOwner owner :: past, h => if h = .owner owner then none else origin? past h
  | .trigger _ :: past, h => origin? past h

theorem channel?_step (s : Switchboard) (a : ShutdownStep) (h : Handle) :
    (s.step a).channel? h =
      match a with
      | .create owner => if h = .owner owner then some s.fresh else s.channel? h
      | .never signal => if h = .signal signal then some s.fresh else s.channel? h
      | .cloneOwner owner source =>
        if h = .owner owner then (s.channel? (.owner source)).or (s.channel? h)
        else s.channel? h
      | .subscribe signal source =>
        if h = .signal signal then (s.channel? (.owner source)).or (s.channel? h)
        else s.channel? h
      | .cloneSignal signal source =>
        if h = .signal signal then (s.channel? (.signal source)).or (s.channel? h)
        else s.channel? h
      | .dropOwner owner => if h = .owner owner then none else s.channel? h
      | .trigger _ => s.channel? h := by
  cases a with
  | create owner => cases h <;> simp [step, channel?, put]
  | never signal => cases h <;> simp [step, channel?, put]
  | dropOwner owner => cases h <;> simp [step, channel?, put]
  | cloneOwner owner source =>
    cases hs : s.owner? source <;> cases h <;> simp [step, channel?, put, hs]
  | subscribe signal source =>
    cases hs : s.owner? source <;> cases h <;> simp [step, channel?, put, hs]
  | cloneSignal signal source =>
    cases hs : s.signal? source <;> cases h <;> simp [step, channel?, put, hs]
  | trigger owner =>
    cases ho : s.owner? owner <;> cases h <;> simp [step, channel?, ho]

def opens : ShutdownStep → Bool
  | .create _ => true
  | .never _ => true
  | _ => false

/-- How many channels a history opens before its step number `n`. -/
def openedBefore (history : List ShutdownStep) (n : Nat) : Nat :=
  (history.take n).countP opens

theorem fresh_step (s : Switchboard) (a : ShutdownStep) :
    (s.step a).fresh = s.fresh + if opens a then 1 else 0 := by
  cases a with
  | create | never | dropOwner => rfl
  | cloneOwner owner source => cases h : s.owner? source <;> simp [step, opens, h]
  | subscribe signal source => cases h : s.owner? source <;> simp [step, opens, h]
  | cloneSignal signal source => cases h : s.signal? source <;> simp [step, opens, h]
  | trigger owner => cases h : s.owner? owner <;> simp [step, opens, h]

theorem fresh_steps (s : Switchboard) (history : List ShutdownStep) :
    (s.steps history).fresh = s.fresh + history.countP opens := by
  induction history generalizing s with
  | nil => rfl
  | cons a history ih =>
    rw [steps_cons, ih, fresh_step, List.countP_cons]
    omega

/-- The channel of a handle is the one that the step of its origin opened. -/
theorem channel?_eq_map_origin? (past later : List ShutdownStep) (h : Handle) :
    (empty.steps past.reverse).channel? h =
      (origin? past h).map (openedBefore (past.reverse ++ later)) := by
  induction past generalizing later h with
  | nil => cases h <;> rfl
  | cons a past ih =>
    have hfresh : openedBefore (past.reverse ++ a :: later) past.length =
        (empty.steps past.reverse).fresh := by
      unfold openedBefore
      rw [fresh_steps, ← List.length_reverse, List.take_left]
      exact (Nat.zero_add _).symm
    have hlist : (a :: past).reverse ++ later = past.reverse ++ a :: later := by simp
    have ih' := ih (a :: later)
    rw [hlist, List.reverse_cons, steps_append, steps_cons, steps_nil, channel?_step]
    cases a with
    | trigger owner => exact ih' h
    | dropOwner owner =>
      simp only [origin?, ih']
      split <;> rfl
    | create | never =>
      simp only [origin?, ih']
      split
      · rw [Option.map_some, hfresh]
      · rfl
    | cloneOwner | subscribe | cloneSignal =>
      simp only [origin?, ih']
      split
      · rw [Option.map_or]
      · rfl

/-- Whether a handle may go back to a step: coordinators only to the creation of one. -/
def founds : ShutdownStep → Handle → Bool
  | .create _, _ => true
  | .never _, .signal _ => true
  | _, _ => false

theorem opens_of_founds {a : ShutdownStep} {h : Handle} (hfounds : founds a h = true) :
    opens a = true := by
  cases a <;> first | rfl | cases hfounds

theorem founds_of_origin? {past : List ShutdownStep} {h : Handle} {n : Nat}
    (horigin : origin? past h = some n) :
    ∃ a, past.reverse[n]? = some a ∧ founds a h = true := by
  induction past generalizing h with
  | nil => cases horigin
  | cons a past ih =>
    have hold : ∀ {h' : Handle}, origin? past h' = some n →
        ∃ b, (a :: past).reverse[n]? = some b ∧ founds b h' = true := by
      intro h' hh'
      obtain ⟨b, hb, hfounds⟩ := ih hh'
      refine ⟨b, ?_, hfounds⟩
      rw [List.reverse_cons, List.getElem?_append_left (List.getElem?_eq_some_iff.1 hb).1, hb]
    have hcopy : ∀ {copy source : Handle},
        (∀ b, founds b source = true → founds b copy = true) →
        (if h = copy then (origin? past source).or (origin? past h) else origin? past h) = some n →
        ∃ b, (a :: past).reverse[n]? = some b ∧ founds b h = true := by
      intro copy source hmono hcopied
      split at hcopied
      case isTrue hh =>
        rcases Option.or_eq_some_iff.1 hcopied with hsource | ⟨-, hself⟩
        · obtain ⟨b, hb, hfounds⟩ := hold hsource
          exact ⟨b, hb, hh ▸ hmono b hfounds⟩
        · exact hold hself
      case isFalse => exact hold hcopied
    have hlast : (a :: past).reverse[past.length]? = some a := by simp
    cases a with
    | trigger owner => exact hold horigin
    | dropOwner owner =>
      simp only [origin?] at horigin
      split at horigin
      · cases horigin
      · exact hold horigin
    | create | never =>
      simp only [origin?] at horigin
      split at horigin
      case isTrue hh =>
        subst hh
        exact Option.some.inj horigin ▸ ⟨_, hlast, rfl⟩
      case isFalse => exact hold horigin
    | cloneOwner | subscribe | cloneSignal =>
      exact hcopy (fun b hb => by cases b <;> first | rfl | cases hb) horigin

theorem openedBefore_lt {history : List ShutdownStep} {m n : Nat} {a : ShutdownStep}
    (hmn : m < n) (ha : history[m]? = some a) (hopens : opens a = true) :
    openedBefore history m < openedBefore history n := by
  unfold openedBefore
  have hnext : (history.take (m + 1)).countP opens = (history.take m).countP opens + 1 := by
    rw [List.take_add_one, ha, Option.toList_some, List.countP_append, List.countP_singleton,
      hopens]
    rfl
  have hle : (history.take (m + 1)).countP opens ≤ (history.take n).countP opens :=
    (List.take_sublist_take_left hmn).countP_le
  omega

/-- Two handles at two moments of a history have one channel exactly when they have one origin. -/
theorem exists_channel?_iff_exists_origin? {history early late : List ShutdownStep} {g h : Handle}
    (hearly : early <+: history) (hlate : late <+: history) :
    (∃ c, (empty.steps early).channel? g = some c ∧ (empty.steps late).channel? h = some c) ↔
      ∃ n, origin? early.reverse g = some n ∧ origin? late.reverse h = some n := by
  obtain ⟨afterEarly, hearly⟩ := hearly
  obtain ⟨afterLate, hlate⟩ := hlate
  have hg := channel?_eq_map_origin? early.reverse afterEarly g
  have hh := channel?_eq_map_origin? late.reverse afterLate h
  rw [List.reverse_reverse, hearly] at hg
  rw [List.reverse_reverse, hlate] at hh
  rw [hg, hh]
  constructor
  · rintro ⟨c, hc, hc'⟩
    obtain ⟨m, hm, rfl⟩ := Option.map_eq_some_iff.1 hc
    obtain ⟨n, hn, hmn⟩ := Option.map_eq_some_iff.1 hc'
    refine ⟨m, hm, ?_⟩
    obtain ⟨a, ha, hfounds⟩ := founds_of_origin? hm
    obtain ⟨b, hb, hfounds'⟩ := founds_of_origin? hn
    rw [List.reverse_reverse] at ha hb
    have ha' : history[m]? = some a := by
      rw [← hearly, List.getElem?_append_left (List.getElem?_eq_some_iff.1 ha).1, ha]
    have hb' : history[n]? = some b := by
      rw [← hlate, List.getElem?_append_left (List.getElem?_eq_some_iff.1 hb).1, hb]
    -- Of two different steps that open a channel, the later one opens a later channel.
    rcases Nat.lt_trichotomy m n with hlt | rfl | hlt
    · have := openedBefore_lt hlt ha' (opens_of_founds hfounds)
      omega
    · exact hn
    · have := openedBefore_lt hlt hb' (opens_of_founds hfounds')
      omega
  · rintro ⟨n, hg, hh⟩
    rw [hg, hh]
    exact ⟨_, rfl, rfl⟩

/-- A coordinator that goes back to step `n` was triggered. -/
def Called (history : List ShutdownStep) (n : Nat) : Prop :=
  ∃ before owner after, history = before ++ .trigger owner :: after ∧
    origin? before.reverse (.owner owner) = some n

theorem Called.append {history : List ShutdownStep} {n : Nat} (h : Called history n)
    (later : List ShutdownStep) : Called (history ++ later) n := by
  obtain ⟨before, owner, after, rfl, howner⟩ := h
  exact ⟨before, owner, after ++ later, List.append_assoc _ _ _, howner⟩

theorem not_called_of_never {history : List ShutdownStep} {n : Nat} {signal : String}
    (hnever : history[n]? = some (.never signal)) : ¬ Called history n := by
  rintro ⟨before, owner, after, rfl, howner⟩
  obtain ⟨a, ha, hfounds⟩ := founds_of_origin? howner
  rw [List.reverse_reverse] at ha
  rw [List.getElem?_append_left (List.getElem?_eq_some_iff.1 ha).1, ha] at hnever
  cases hnever
  cases hfounds

/-- A channel is raised exactly when a coordinator of its origin was triggered. -/
theorem raised_steps_iff_called {history later : List ShutdownStep} {h : Handle} {c n : Nat}
    (hc : (empty.steps history).channel? h = some c) (hn : origin? history.reverse h = some n) :
    (empty.steps (history ++ later)).raised c = true ↔ Called (history ++ later) n := by
  have hhistory : history <+: history ++ later := List.prefix_append _ _
  constructor
  · intro hraised
    rcases raised_steps_iff.1 hraised with hup | ⟨before, owner, after, hsplit, howner⟩
    · cases hup
    · have hbefore : before <+: history ++ later := ⟨_, hsplit.symm⟩
      have hsource : (empty.steps before).channel? (.owner owner) = some c := howner
      obtain ⟨m, hg, hh⟩ :=
        (exists_channel?_iff_exists_origin? hbefore hhistory).1 ⟨c, hsource, hc⟩
      obtain rfl : n = m := Option.some.inj (hn.symm.trans hh)
      exact ⟨before, owner, after, hsplit, hg⟩
  · rintro ⟨before, owner, after, hsplit, hg⟩
    have hbefore : before <+: history ++ later := ⟨_, hsplit.symm⟩
    obtain ⟨d, hd, hd'⟩ :=
      (exists_channel?_iff_exists_origin? hbefore hhistory).2 ⟨n, hg, hn⟩
    obtain rfl : c = d := Option.some.inj (hc.symm.trans hd')
    exact raised_steps_iff.2 (.inr ⟨before, owner, after, hsplit, hd⟩)

theorem triggered_eq (s : Switchboard) (h : Handle) :
    s.triggered h = (s.channel? h).any s.raised := by
  cases h <;> rfl

theorem triggered_steps_iff {history : List ShutdownStep} {h : Handle} :
    (empty.steps history).triggered h = true ↔
      ∃ n, origin? history.reverse h = some n ∧ Called history n := by
  have hself : history <+: history := List.prefix_refl _
  rw [triggered_eq, Option.any_eq_true]
  constructor
  · rintro ⟨c, hc, hraised⟩
    obtain ⟨n, hn, -⟩ := (exists_channel?_iff_exists_origin? hself hself).1 ⟨c, hc, hc⟩
    rw [← List.append_nil history] at hraised
    exact ⟨n, hn, by simpa using (raised_steps_iff_called hc hn).1 hraised⟩
  · rintro ⟨n, hn, hcalled⟩
    obtain ⟨c, hc, -⟩ := (exists_channel?_iff_exists_origin? hself hself).2 ⟨n, hn, hn⟩
    rw [← List.append_nil history] at hcalled
    exact ⟨c, hc, by simpa using (raised_steps_iff_called hc hn).2 hcalled⟩

/-- Once triggered, all that comes from the same origin stays so, at any later moment. -/
theorem triggered_steps_append {history later : List ShutdownStep} {g h : Handle} {n : Nat}
    (hg : origin? history.reverse g = some n) (hh : origin? (history ++ later).reverse h = some n)
    (htriggered : (empty.steps history).triggered g = true) :
    (empty.steps (history ++ later)).triggered h = true := by
  obtain ⟨m, hm, hcalled⟩ := triggered_steps_iff.1 htriggered
  obtain rfl : n = m := Option.some.inj (hg.symm.trans hm)
  exact triggered_steps_iff.2 ⟨n, hh, hcalled.append later⟩

/-- A trigger changes nothing for handles of other origins. -/
theorem triggered_steps_trigger {history : List ShutdownStep} {owner : String} {h : Handle}
    (hne : origin? history.reverse (.owner owner) ≠ origin? history.reverse h) :
    (empty.steps (history ++ [.trigger owner])).triggered h =
      (empty.steps history).triggered h := by
  have hsame : origin? (history ++ [ShutdownStep.trigger owner]).reverse h = origin? history.reverse h := by
    rw [List.reverse_append]
    rfl
  rw [Bool.eq_iff_iff, triggered_steps_iff, triggered_steps_iff, hsame]
  constructor
  · rintro ⟨n, hn, before, source, after, hsplit, hsource⟩
    rcases List.eq_nil_or_concat after with rfl | ⟨after, last, rfl⟩
    · obtain ⟨rfl, hlast⟩ := List.append_inj' hsplit rfl
      cases hlast
      exact absurd (hsource.trans hn.symm) hne
    · have hsplit' : history ++ [.trigger owner] =
          (before ++ .trigger source :: after) ++ [last] := by simpa using hsplit
      obtain ⟨rfl, -⟩ := List.append_inj' hsplit' rfl
      exact ⟨n, hn, before, source, after, rfl, hsource⟩
  · rintro ⟨n, hn, hcalled⟩
    exact ⟨n, hn, hcalled.append _⟩

end Courier.Switchboard
