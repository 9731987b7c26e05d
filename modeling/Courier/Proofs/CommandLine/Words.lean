import Courier.CommandLine.Command
import Courier.Proofs.CommandLine.Fields

/-!
Commands that take plain words. The words may stand before, between and behind the options, and
are read in their order. A command line that asks for confirmations names its receipts like that.
-/
namespace Courier
namespace CommandLine

/-- How words are written among options, which keep their own order. -/
inductive Scattered (rules : List OptionRule) :
    List String → List (String × String) → List String → Prop where
  | nil : Scattered rules [] [] []
  | word {word : String} {args words : List String} {options : List (String × String)}
      (hplain : Shape.ofText word = .plain) (rest : Scattered rules args options words) :
      Scattered rules (word :: args) options (word :: words)
  | option {start args words : List String} {o : String × String}
      {options : List (String × String)} (hstart : Written rules start [o])
      (rest : Scattered rules args options words) :
      Scattered rules (start ++ args) (o :: options) words
  /-- Behind two dashes there are only words. -/
  | escape (words : List String) : Scattered rules ("--" :: words) [] words

theorem Given.words_add {g g' : Given} {rule : OptionRule} {value : String}
    (h : g.add rule value = .ok g') : g'.words = g.words := by
  unfold add at h
  split at h
  case isTrue => cases h
  case isFalse =>
    cases h
    rfl

/-- What going through a whole line from `g` found: options and words as they are written. -/
structure Gathered (rules : List OptionRule) (g : Given) (args : List String) (g' : Given) :
    Prop where
  scattered : ∃ options words, Scattered rules args options words ∧
    g'.options = g.options ++ options ∧ g'.words = g.words ++ words
  nodup : (∀ rule ∈ rules, rule.usage ≠ .values) → (g.options.map Prod.fst).Nodup →
    (g'.options.map Prod.fst).Nodup

namespace Gathered

variable {rules : List OptionRule} {g g₁ g' : Given} {args : List String}
  {next : Option (String × List String)}

theorem option {rule : OptionRule} {value : String} {start : List String} (hrule : rule ∈ rules)
    (hadd : g.add rule value = .ok g₁) (hstart : Written rules start [(rule.name, value)])
    (h : Gathered rules g₁ args g') : Gathered rules g (start ++ args) g' := by
  obtain ⟨options, words, hscattered, hoptions, hwords⟩ := h.scattered
  rw [(Given.add_eq_ok hadd).1, List.append_assoc] at hoptions
  rw [Given.words_add hadd] at hwords
  exact ⟨⟨_, words, .option hstart hscattered, hoptions, hwords⟩, fun hsingle hnodup =>
    h.nodup hsingle (Given.nodup_add hadd (hsingle rule hrule) hnodup)⟩

theorem of_scan (h : scan rules true [] g args = .ok (g', next)) : Gathered rules g args g' := by
  fun_induction scan rules true [] g args
  -- The cases not named here are refusals.
  case case1 g =>
    cases h
    exact ⟨⟨[], [], .nil, (List.append_nil _).symm, (List.append_nil _).symm⟩, fun _ hnodup =>
      hnodup⟩
  case case2 hname => cases hname
  case case3 g word rest _ hplain _ ih =>
    obtain ⟨options, words, hscattered, hoptions, hwords⟩ := (ih h).scattered
    refine ⟨⟨options, word :: words, .word hplain hscattered, hoptions, ?_⟩, (ih h).nodup⟩
    rw [hwords]
    exact List.append_assoc ..
  case case5 g word rest _ hshape _ =>
    cases h
    obtain rfl := Shape.eq_of_ofText_escape hshape
    exact ⟨⟨[], rest, .escape rest, (List.append_nil _).symm, rfl⟩, fun _ hnodup => hnodup⟩
  case case10 g word rest _ label rule hfind husage g₁ hadd hshape ih =>
    exact (ih h).option (mem_of_find?_answersTo hfind).1 hadd (.of_flag hfind husage hshape)
  case case12 g word rest _ label rule hfind value g₁ hadd husage hshape ih =>
    exact (ih h).option (mem_of_find?_answersTo hfind).1 hadd (.of_one_word hfind husage hshape)
  case case14 g word _ label rule hfind value rest g₁ hadd hplain husage hshape ih =>
    exact (ih h).option (mem_of_find?_answersTo hfind).1 hadd
      (.of_spaced hfind husage hshape hplain)
  all_goals cases h

end Gathered

open Form

theorem read_words {g : Given} {words : List String} :
    Form.words.read g = some words ↔ g.words = words ∧ words ≠ [] := by
  change (if g.words.isEmpty then none else some g.words) = some words ↔ _
  by_cases hnone : g.words = []
  · rw [hnone]
    simp [eq_comm]
  · rw [if_neg (by simpa using hnone), Option.some.injEq]
    exact ⟨fun h => ⟨h, h ▸ hnone⟩, fun h => h.1⟩

@[simp] theorem rules_words : Form.words.rules = [] := rfl

def confirmFields (maxPolls? : Option UInt32) (pollIntervalMs? : Option UInt64) : Fields :=
  [("max-polls", .asAny Field.u32 maxPolls?),
    ("poll-interval-ms", .asAny Field.u64 pollIntervalMs?)]

/-- Words that name these receipts, one at least, among options that say the limits of the polls. -/
structure ConfirmSpelled (receipts : List Receipt) (maxPolls? : Option UInt32)
    (pollIntervalMs? : Option UInt64) (args : List String) : Prop where
  scattered : ∃ options, Scattered (confirmFields maxPolls? pollIntervalMs?).rules args options
    (receipts.map Receipt.id) ∧ (options.map Prod.fst).Nodup ∧
    (confirmFields maxPolls? pollIntervalMs?).SaidBy options
  nonempty : receipts ≠ []

variable {receipts : List Receipt} {maxPolls? : Option UInt32} {pollIntervalMs? : Option UInt64}

theorem confirmSpelled_of_reading {args : List String}
    (h : (Command.confirm <$> (List.map Receipt.mk <$> words) <*>
      optional "max-polls" Field.u32 <*> optional "poll-interval-ms" Field.u64).reading args =
        .ok (.confirm receipts maxPolls? pollIntervalMs?)) :
    ConfirmSpelled receipts maxPolls? pollIntervalMs? args := by
  obtain ⟨g, next, hscan, hvalue⟩ := reading_eq_ok h
  have hgathered := Gathered.of_scan hscan
  have hnodup := hgathered.nodup (by decide) List.nodup_nil
  obtain ⟨options, names, hscattered, hoptions, hnames⟩ := hgathered.scattered
  obtain rfl : g.options = options := hoptions
  obtain rfl : g.words = names := hnames
  simp only [read_seq, read_map, read_words, read_optional hnodup] at hvalue
  obtain ⟨-, ⟨-, ⟨_, ⟨_, ⟨rfl, hne⟩, rfl⟩, rfl⟩, _, hpolls, rfl⟩, _, hinterval, hmade⟩ := hvalue
  cases hmade
  constructor
  · refine ⟨g.options, ?_, hnodup, by simp [confirmFields, hpolls, hinterval]⟩
    simpa [confirmFields, Function.comp_def] using hscattered
  · simpa using hne

theorem commandMenu_confirmSpelled {name : String} {read : Reading Command}
    (h : (name, read) ∈ commandMenu) {args : List String}
    (hread : read args = .ok (.confirm receipts maxPolls? pollIntervalMs?)) :
    name = "confirm" ∧ ConfirmSpelled receipts maxPolls? pollIntervalMs? args := by
  simp only [commandMenu, List.mem_cons, List.not_mem_nil, or_false, Prod.mk.injEq] at h
  rcases h with ⟨rfl, rfl⟩ | ⟨rfl, rfl⟩ | ⟨rfl, rfl⟩ | ⟨rfl, rfl⟩ | ⟨rfl, rfl⟩ | ⟨rfl, rfl⟩ |
    ⟨rfl, rfl⟩
  case inr.inl => exact ⟨rfl, confirmSpelled_of_reading hread⟩
  case inl =>
    obtain ⟨g, -, -, hvalue⟩ := reading_eq_ok hread
    simp [just] at hvalue
  case inr.inr.inr.inr.inr.inl =>
    obtain ⟨g, -, -, hvalue⟩ := reading_eq_ok hread
    simp [read_seq, read_map] at hvalue
  all_goals
    obtain ⟨_, -, hmade⟩ := Except.map_eq_ok_iff.1 hread
    cases hmade

/-- A command line that asks for confirmations names their receipts in order, below the options of
every command. -/
theorem Invocation.confirm_spelled {args : List String} {i : Invocation}
    (h : ofArguments args = .ok i)
    (hconfirm : i.command = .confirm receipts maxPolls? pollIntervalMs?) :
    ∃ before given rest, args = before ++ "confirm" :: rest ∧
      Written common.rules before given ∧
      ConfirmSpelled receipts maxPolls? pollIntervalMs? rest := by
  obtain ⟨⟨⟨config?, logLevel?⟩, command⟩, hover, rfl⟩ := Except.map_eq_ok_iff.1 h
  obtain ⟨g, before, name, read, rest, hwritten, -, -, hmem, hread, rfl⟩ :=
    over_eq_ok rfl (by decide) hover
  obtain rfl : command = .confirm receipts maxPolls? pollIntervalMs? := hconfirm
  obtain ⟨rfl, hspelled⟩ := commandMenu_confirmSpelled hmem hread
  exact ⟨before, g.options, rest, rfl, hwritten, hspelled⟩

end CommandLine
end Courier
