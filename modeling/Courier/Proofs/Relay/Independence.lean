import Courier.Proofs.Relay.Alone
import Mathlib.Data.Set.List

/-!
Confirmations of different receipts do not get in each other's way. Before a node whose answers for
a receipt depend on nothing but how often it was asked, each comes to the result that it has alone,
in whatever order their steps fall.
-/
namespace Courier.Relay

variable {α : Type} {channel : Nat} {s s' : Scene α} {es : List Happening}
  {receipts : List Receipt} {receipt : Receipt}
  {ledger : Receipt → Nat → Except TransportError OutcomeStatus}

/-- The outcomes that the node tells of a receipt, to whichever dialogue. -/
def outcomesTold (receipt : Receipt) (es : List Happening) :
    List (Except TransportError OutcomeStatus) :=
  es.filterMap fun
    | .outside _ => none
    | .inside _ act => act.outcomeOf? receipt

/-- What the node tells of a receipt for the nth time depends on the receipt and on n only. -/
def ToldBy (ledger : Receipt → Nat → Except TransportError OutcomeStatus)
    (es : List Happening) : Prop :=
  ∀ receipt, Follows (ledger receipt) (outcomesTold receipt es)

/-- The log of one dialogue among others, when its sleeps last to their end. -/
def logOf (who : Nat) (es : List Happening) : Log :=
  (actsOf who es).filterMap Act.entry?

def Scene.Over (s : Scene α) (values : List α) : Prop :=
  s.standings = values.map fun v => .free (.done v)

/-- One dialogue for each receipt, which asks for the outcome of this receipt only. -/
structure Scene.Asks (s : Scene α) (receipts : List Receipt) : Prop where
  length_eq : s.standings.length = receipts.length
  asksOnly : ∀ (i : Nat) r (x : Standing α), receipts[i]? = some r → s.standings[i]? = some x →
    x.AsksOnly r

theorem Scene.Asks.exists_standing (h : s.Asks receipts) {i : Nat}
    (hi : receipts[i]? = some receipt) : ∃ x, s.standings[i]? = some x := by
  have hlt := (List.getElem?_eq_some_iff.1 hi).1
  exact ⟨_, List.getElem?_eq_getElem (h.length_eq ▸ hlt)⟩

theorem getElem?_start_confirmEach {i : Nat} (h : receipts[i]? = some receipt)
    (policy : PollPolicy) (board : Switchboard) :
    (Scene.start (confirmEach receipts policy) board).standings[i]? =
      some (Standing.free (confirm receipt policy)) := by
  simp [Scene.start, confirmEach, h]

theorem asks_start_confirmEach (receipts : List Receipt) (policy : PollPolicy)
    (board : Switchboard) : (Scene.start (confirmEach receipts policy) board).Asks receipts where
  length_eq := by simp [Scene.start, confirmEach]
  asksOnly i r x hr hx := by
    obtain rfl := Option.some.inj ((getElem?_start_confirmEach hr policy board).symm.trans hx)
    exact asksOnly_confirmFrom r policy _

theorem Scene.Steps.length_standings (h : Steps channel s es s') :
    s'.standings.length = s.standings.length := by
  induction h with
  | nil => rfl
  | cons h _ ih =>
    cases h with
    | outside a => exact ih
    | inside hx hm => exact ih.trans List.length_set

theorem Scene.Steps.lt_of_inside_mem (h : Steps channel s es s') {i : Nat} {act : Act}
    (hmem : .inside i act ∈ es) : i < s.standings.length := by
  induction h with
  | nil => cases hmem
  | cons h _ ih =>
    cases h with
    | outside a => exact ih (by simpa using hmem)
    | inside hx hm =>
      rcases List.mem_cons.1 hmem with heq | hrest
      · cases heq
        exact (List.getElem?_eq_some_iff.1 hx).1
      · exact List.length_set ▸ ih hrest

theorem Scene.Asks.steps (hs : s.Asks receipts) (h : Steps channel s es s')
    (hdown : s'.board.raised channel = false) : s'.Asks receipts where
  length_eq := h.length_standings.trans hs.length_eq
  asksOnly i r y hr hy := by
    obtain ⟨x, hx⟩ := hs.exists_standing hr
    obtain ⟨y', hy', hquiet⟩ := h.quiet hdown hx
    obtain rfl := Option.some.inj (hy'.symm.trans hy)
    exact hquiet.asksOnly (hs.asksOnly i r x hr hx)

/-- Other dialogues are told nothing of a receipt that is not theirs. -/
theorem Scene.Asks.outcomeOf?_eq_none (hs : s.Asks receipts) (hnodup : receipts.Nodup)
    (h : Steps channel s es s') (hdown : s'.board.raised channel = false) {i j : Nat} {act : Act}
    (hi : receipts[i]? = some receipt) (hne : j ≠ i) (hmem : .inside j act ∈ es) :
    act.outcomeOf? receipt = none := by
  have hlt : j < receipts.length := hs.length_eq ▸ h.lt_of_inside_mem hmem
  have hj : receipts[j]? = some receipts[j] := List.getElem?_eq_getElem hlt
  obtain ⟨x, hx⟩ := hs.exists_standing hj
  obtain ⟨y, -, hquiet⟩ := h.quiet hdown hx
  refine hquiet.outcomeOf?_eq_none (hs.asksOnly j _ x hj hx) ?_ act
    (List.mem_filterMap.2 ⟨_, hmem, by simp⟩)
  intro heq
  rw [heq] at hj
  exact hne ((List.getElem?_inj hlt hnodup).1 (hj.trans hi.symm))

/-- All that is told of a receipt is told to its own dialogue. -/
theorem outcomesTold_eq (who : Nat)
    (h : ∀ j act, j ≠ who → .inside j act ∈ es → act.outcomeOf? receipt = none) :
    outcomesTold receipt es = (actsOf who es).filterMap (Act.outcomeOf? receipt) := by
  unfold outcomesTold actsOf
  rw [List.filterMap_filterMap]
  refine List.filterMap_congr fun e he => ?_
  cases e with
  | outside a => rfl
  | inside j act =>
    by_cases hj : j = who
    · simp [hj]
    · simp [hj, h j act hj he]

/-- However far a dialogue has come among others, its log and its value are those that it has
alone. -/
theorem Scene.Asks.alone (hs : s.Asks receipts) (hnodup : receipts.Nodup)
    (h : Steps channel s es s') (hdown : s'.board.raised channel = false)
    (htold : ToldBy ledger es) {i : Nat} (hi : receipts[i]? = some receipt) {d : Relaying α}
    (hd : s.standings[i]? = some (.free d)) :
    ∃ y later, s'.standings[i]? = some y ∧
      logAlone (ledger receipt) d = logOf i es ++ logAlone later y.rest ∧
      valueAlone (ledger receipt) d = valueAlone later y.rest ∧
      (actsOf i es).countP Act.leadsOn ≤ 2 * (logAlone (ledger receipt) d).length := by
  obtain ⟨y, hy, hquiet⟩ := h.quiet hdown hd
  have hown := outcomesTold_eq i fun j act hj hmem =>
    hs.outcomeOf?_eq_none hnodup h hdown hi hj hmem
  obtain ⟨later, hlog, hvalue⟩ :=
    hquiet.alone (hs.asksOnly i _ _ hi hd) (hown ▸ htold receipt)
  refine ⟨y, later, hy, hlog, hvalue, ?_⟩
  -- The entries still to come make up for a call that has no entry yet.
  have hcount := hquiet.countP_leadsOn_le
  have hlag := y.lag_le later
  change logAlone (ledger receipt) d = _ at hlog
  change _ + 1 ≤ _ at hcount
  rw [hlog, List.length_append]
  omega

theorem outcomesTold_append (receipt : Receipt) (es fs : List Happening) :
    outcomesTold receipt (es ++ fs) = outcomesTold receipt es ++ outcomesTold receipt fs :=
  List.filterMap_append

theorem outcomesTold_map_inside (receipt : Receipt) (who : Nat) (acts : List Act) :
    outcomesTold receipt (acts.map (.inside who)) = acts.filterMap (Act.outcomeOf? receipt) := by
  unfold outcomesTold
  rw [List.filterMap_map]
  rfl

/-- What is told of one receipt only keeps to the ledger when it goes on where it has come to. -/
theorem ToldBy.append_inside (htold : ToldBy ledger es) {acts : List Act} {who : Nat}
    (hother : ∀ r, receipt ≠ r → ∀ act ∈ acts, act.outcomeOf? r = none)
    (hfollows : Follows (fun n => ledger receipt (n + (outcomesTold receipt es).length))
      (acts.filterMap (Act.outcomeOf? receipt))) :
    ToldBy ledger (es ++ acts.map (.inside who)) := by
  intro r
  rw [outcomesTold_append, outcomesTold_map_inside, follows_append]
  refine ⟨htold r, ?_⟩
  by_cases hr : receipt = r
  · subst hr
    exact hfollows
  · rw [List.filterMap_eq_nil_iff.2 (hother r hr)]
    exact follows_nil _

/-- One dialogue after the other can be brought to its end. -/
theorem Scene.Asks.exists_done_below (hs : s.Asks receipts)
    (hdown : s.board.raised channel = false) (htold : ToldBy ledger es) {k : Nat}
    (hk : k ≤ receipts.length) :
    ∃ more s', Steps channel s more s' ∧ s'.board = s.board ∧ ToldBy ledger (es ++ more) ∧
      ∀ i < k, ∃ v, s'.standings[i]? = some (.free (.done v)) := by
  induction k with
  | zero => exact ⟨[], s, .nil, rfl, by simpa using htold, by simp⟩
  | succ k ih =>
    obtain ⟨more, t, hsteps, hboard, htold', hdone⟩ := ih (Nat.le_of_lt hk)
    have ht : t.Asks receipts := hs.steps hsteps (hboard ▸ hdown)
    have hr : receipts[k]? = some receipts[k] := List.getElem?_eq_getElem hk
    obtain ⟨x, hx⟩ := ht.exists_standing hr
    have hxasks := ht.asksOnly k _ x hr hx
    obtain ⟨acts, v, hquiet, hfollows⟩ := hxasks.finishes fun n =>
      ledger receipts[k] (n + (outcomesTold receipts[k] (es ++ more)).length)
    refine ⟨more ++ acts.map (.inside k), { t with standings := t.standings.set k _ },
      hsteps.append (hquiet.steps (hboard ▸ hdown) hx), hboard, ?_, ?_⟩
    · rw [← List.append_assoc]
      exact htold'.append_inside (fun r hne => hquiet.outcomeOf?_eq_none hxasks hne) hfollows
    · intro i hi
      have hlt := (List.getElem?_eq_some_iff.1 hx).1
      rcases Nat.lt_succ_iff_lt_or_eq.1 hi with hbelow | rfl
      · obtain ⟨w, hw⟩ := hdone i hbelow
        exact ⟨w, by simp [Nat.ne_of_gt hbelow, hw]⟩
      · exact ⟨v, by simp [hlt]⟩

theorem Scene.Asks.exists_over (hs : s.Asks receipts) (hdown : s.board.raised channel = false)
    (htold : ToldBy ledger es) :
    ∃ more s' values, Steps channel s more s' ∧ s'.board = s.board ∧
      ToldBy ledger (es ++ more) ∧ s'.Over values := by
  obtain ⟨more, s', hsteps, hboard, htold', hdone⟩ :=
    hs.exists_done_below hdown htold (Nat.le_refl _)
  have hrange : s'.standings ∈ Set.range (List.map fun v : α => Standing.free (.done v)) := by
    rw [Set.range_list_map]
    intro x hx
    obtain ⟨i, hi, rfl⟩ := List.mem_iff_getElem.1 hx
    obtain ⟨v, hv⟩ := hdone i (by rw [← hs.length_eq, ← hsteps.length_standings]; exact hi)
    exact ⟨v, Option.some.inj (hv.symm.trans (List.getElem?_eq_getElem hi))⟩
  obtain ⟨values, hvalues⟩ := hrange
  exact ⟨more, s', values, hsteps, hboard, htold', hvalues.symm⟩

theorem Scene.Asks.alone_of_done (hs : s.Asks receipts) (hnodup : receipts.Nodup)
    (h : Steps channel s es s') (hdown : s'.board.raised channel = false)
    (htold : ToldBy ledger es) {i : Nat} (hi : receipts[i]? = some receipt) {d : Relaying α}
    (hd : s.standings[i]? = some (.free d)) {v : α}
    (hdone : s'.standings[i]? = some (.free (.done v))) :
    logOf i es = logAlone (ledger receipt) d ∧ v = valueAlone (ledger receipt) d := by
  obtain ⟨y, later, hy, hlog, hvalue, -⟩ := hs.alone hnodup h hdown htold hi hd
  obtain rfl := Option.some.inj (hy.symm.trans hdone)
  exact ⟨(hlog.trans (List.append_nil _)).symm, hvalue.symm⟩

/-- Confirmations of different receipts, in every interleaving without shutdown. Once all are over,
the receipts stand paired with the results that they have one by one. Each confirmation logs what
it logs alone, as far as it has come, and takes a bounded number of steps apart from those of
sleeps that go on. From wherever they have come to, all can be brought to their end. -/
theorem confirmEach_independent {policy : PollPolicy} {board : Switchboard}
    {s : Scene (Except DeliveryError Json)} (hnodup : receipts.Nodup)
    (h : Scene.Steps channel (.start (confirmEach receipts policy) board) es s)
    (hdown : s.board.raised channel = false) (htold : ToldBy ledger es) :
    (∀ results, s.Over results → results.length = receipts.length ∧
      receipts.zip results =
        receipts.map fun r => (r, valueAlone (ledger r) (confirm r policy))) ∧
    (∀ i r, receipts[i]? = some r →
      logOf i es <+: logAlone (ledger r) (confirm r policy) ∧
      (∀ result, s.standings[i]? = some (.free (.done result)) →
        logOf i es = logAlone (ledger r) (confirm r policy) ∧
          result = valueAlone (ledger r) (confirm r policy)) ∧
      (actsOf i es).countP Act.leadsOn ≤ 2 * (logAlone (ledger r) (confirm r policy)).length) ∧
    ∃ more s' results, Scene.Steps channel s more s' ∧ s'.board = s.board ∧
      ToldBy ledger (es ++ more) ∧ s'.Over results := by
  have hstart := asks_start_confirmEach receipts policy board
  have hs := hstart.steps h hdown
  refine ⟨fun results hover => ?_, fun i r hr => ⟨?_, fun result hdone => ?_, ?_⟩,
    hs.exists_over hdown htold⟩
  · have hlength : results.length = receipts.length := by
      rw [← hs.length_eq, hover, List.length_map]
    have hresults : results = receipts.map fun r => valueAlone (ledger r) (confirm r policy) := by
      refine List.ext_getElem (by rw [hlength, List.length_map]) fun i hi hi' => ?_
      have hlt : i < receipts.length := hlength ▸ hi
      have hr : receipts[i]? = some receipts[i] := List.getElem?_eq_getElem hlt
      have hdone : s.standings[i]? = some (.free (.done results[i])) := by
        rw [hover, List.getElem?_map, List.getElem?_eq_getElem hi]
        rfl
      rw [List.getElem_map]
      exact (hstart.alone_of_done hnodup h hdown htold hr
        (getElem?_start_confirmEach hr policy board) hdone).2
    refine ⟨hlength, ?_⟩
    rw [hresults, List.map_prod_left_eq_zip]
  · obtain ⟨y, later, -, hlog, -, -⟩ := hstart.alone hnodup h hdown htold hr
      (getElem?_start_confirmEach hr policy board)
    exact ⟨_, hlog.symm⟩
  · exact hstart.alone_of_done hnodup h hdown htold hr
      (getElem?_start_confirmEach hr policy board) hdone
  · obtain ⟨y, later, -, -, -, hcount⟩ := hstart.alone hnodup h hdown htold hr
      (getElem?_start_confirmEach hr policy board)
    exact hcount

def sampleReceipts : List Receipt :=
  [⟨"one"⟩, ⟨"two"⟩]

/-- Two polls, half a second apart. -/
def twoPolls : PollPolicy :=
  ⟨2, .ofMilliseconds 500⟩

/-- Receipt "two" has failed, and every other one succeeds when it is asked for again. -/
def sampleLedger (receipt : Receipt) (n : Nat) : Except TransportError OutcomeStatus :=
  if receipt = ⟨"two"⟩ then .ok (.executed (.failure "boom"))
  else if n = 0 then .ok .pending else .ok (.executed (.success .null))

/-- The second confirmation is over while the first one sleeps. -/
def sampleRun : List Happening :=
  [.inside 0 (.begin (.outcome ⟨"one"⟩)),
    .inside 1 (.begin (.outcome ⟨"two"⟩)),
    .inside 1 (.reply (.outcome ⟨"two"⟩) (.ok (.executed (.failure "boom")))),
    .inside 0 (.reply (.outcome ⟨"one"⟩) (.ok .pending)),
    .inside 0 (.count (.poll .pending)),
    .inside 1 (.count (.poll .executed)),
    .inside 0 (.check false),
    .inside 0 (.lieDown (.ofMilliseconds 500)),
    .inside 0 (.look false),
    .inside 0 (.turn false),
    .inside 1 (.count (.outcome .failure)),
    .inside 0 (.look false),
    .inside 0 (.turn true),
    .inside 0 (.begin (.outcome ⟨"one"⟩)),
    .inside 0 (.reply (.outcome ⟨"one"⟩) (.ok (.executed (.success .null)))),
    .inside 0 (.count (.poll .executed)),
    .inside 0 (.count (.outcome .success))]

def sampleEnd : Scene (Except DeliveryError Json) :=
  ⟨[.free (.done (.ok .null)), .free (.done (.error (.execution "boom")))], .empty⟩

theorem steps_sampleRun :
    Scene.Steps 0 (.start (confirmEach sampleReceipts twoPolls) .empty) sampleRun sampleEnd := by
  unfold sampleReceipts confirmEach confirm
  rw [List.map_cons, List.map_cons, List.map_nil, confirmFrom.eq_def ⟨"one"⟩,
    confirmFrom.eq_def ⟨"two"⟩]
  refine .cons (.inside rfl .outcome) (.cons (.inside rfl .outcome) ?_)
  refine .cons (.inside rfl (.reply _)) (.cons (.inside rfl (.reply _)) ?_)
  refine .cons (.inside rfl .count) (.cons (.inside rfl .count) ?_)
  refine .cons (.inside rfl .check) (.cons (.inside rfl .lieDown) ?_)
  refine .cons (.inside rfl (.down rfl)) (.cons (.inside rfl .pending) ?_)
  refine .cons (.inside rfl .count) (.cons (.inside rfl (.down rfl)) ?_)
  refine .cons (t := ⟨[.free (confirmFrom ⟨"one"⟩ twoPolls (AttemptBudget.ofLimit 2).record),
    .free (.done (.error (.execution "boom")))], .empty⟩) (.inside rfl .elapsed) ?_
  rw [confirmFrom]
  refine .cons (.inside rfl .outcome) (.cons (.inside rfl (.reply _)) ?_)
  exact .cons (.inside rfl .count) (.cons (.inside rfl .count) .nil)

theorem toldBy_sampleRun : ToldBy sampleLedger sampleRun := by
  intro receipt
  by_cases hone : receipt = ⟨"one"⟩
  · subst hone
    exact follows_cons.2 ⟨rfl, follows_cons.2 ⟨rfl, follows_nil _⟩⟩
  · by_cases htwo : receipt = ⟨"two"⟩
    · subst htwo
      exact follows_cons.2 ⟨rfl, follows_nil _⟩
    · simp [outcomesTold, sampleRun, Act.outcomeOf?, Ne.symm hone, Ne.symm htwo, follows_nil]

/-- Each of the two comes to the result that it has alone, after the same queries and waits. -/
theorem confirmEach_independent_sampleRun :
    sampleReceipts.Nodup ∧
      Scene.Steps 0 (.start (confirmEach sampleReceipts twoPolls) .empty) sampleRun sampleEnd ∧
      sampleEnd.board.raised 0 = false ∧ ToldBy sampleLedger sampleRun ∧
      sampleReceipts.zip [.ok .null, .error (.execution "boom")] = sampleReceipts.map (fun r =>
        (r, valueAlone (sampleLedger r) (confirm r twoPolls))) ∧
      logOf 0 sampleRun = logAlone (sampleLedger ⟨"one"⟩) (confirm ⟨"one"⟩ twoPolls) ∧
      logOf 1 sampleRun = logAlone (sampleLedger ⟨"two"⟩) (confirm ⟨"two"⟩ twoPolls) := by
  have hnodup : sampleReceipts.Nodup := by decide
  obtain ⟨hresults, heach, -⟩ :=
    confirmEach_independent hnodup steps_sampleRun rfl toldBy_sampleRun
  obtain ⟨-, hpairs⟩ := hresults [.ok .null, .error (.execution "boom")] rfl
  obtain ⟨-, hone, -⟩ := heach 0 ⟨"one"⟩ rfl
  obtain ⟨-, htwo, -⟩ := heach 1 ⟨"two"⟩ rfl
  exact ⟨hnodup, steps_sampleRun, rfl, toldBy_sampleRun, hpairs, (hone _ rfl).1, (htwo _ rfl).1⟩

end Courier.Relay
