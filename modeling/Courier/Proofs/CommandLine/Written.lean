import Courier.CommandLine.Form
import Courier.Proofs.Text

/-!
What the words of one level of a command line look like when they are accepted: options with their
values and nothing else, up to the command that follows or the end of the line.
-/
namespace Courier.CommandLine

/-- How an option is called when its value is not in the same word. -/
def Label.text : Label → String
  | long name => "--" ++ name
  | short letter => "-" ++ String.singleton letter

namespace Shape

theorem eq_of_ofText_escape {s : String} (h : ofText s = .escape) : s = "--" := by
  unfold ofText at h
  split at h
  case h_1 hs => exact String.toList_inj.1 hs
  case h_2 => split at h <;> cases h
  case h_3 => cases h
  case h_4 => cases h

theorem attached?_eq_none {l : List Char} (h : attached? l = none) : l = [] := by
  unfold attached? at h
  split at h
  · rfl
  · cases h
  · cases h

theorem attached?_eq_some {l : List Char} {value : String} (h : attached? l = some value) :
    l = '=' :: value.toList ∨ l = value.toList ∧ attached? value.toList = some value := by
  unfold attached? at h
  split at h
  · cases h
  · cases h
    exact .inl (by simp)
  case h_3 hnil heq =>
    cases h
    refine .inr ⟨by simp, ?_⟩
    rw [String.toList_ofList]
    unfold attached?
    split
    · exact absurd rfl hnil
    · exact absurd rfl (heq _)
    · rfl

/-- A word that calls an option is its label, with the value behind it if there is one. -/
theorem eq_of_ofText_option {s : String} {label : Label} {value? : Option String}
    (h : ofText s = .option label value?) :
    value? = none ∧ s = label.text ∨ ∃ value, value? = some value ∧
      (s = label.text ++ "=" ++ value ∨
        (∃ letter, label = .short letter) ∧ s = label.text ++ value ∧
          attached? value.toList = some value) := by
  unfold ofText at h
  split at h
  case h_1 => cases h
  case h_2 rest _ hs =>
    split at h
    case h_1 =>
      cases h
      exact .inl ⟨rfl, String.toList_inj.1 (by simp [hs, Label.text])⟩
    case h_2 name value hcut =>
      cases h
      refine .inr ⟨_, rfl, .inl (String.toList_inj.1 ?_)⟩
      simp [hs, (Text.cutAt_eq_some_iff.1 hcut).1, Label.text]
  case h_3 letter rest _ _ hs =>
    cases hvalue : attached? rest with
    | none =>
      rw [hvalue] at h
      cases h
      obtain rfl := attached?_eq_none hvalue
      exact .inl ⟨rfl, String.toList_inj.1 (by simp [hs, Label.text])⟩
    | some value =>
      rw [hvalue] at h
      cases h
      refine .inr ⟨value, rfl, ?_⟩
      rcases attached?_eq_some hvalue with rfl | ⟨rfl, hself⟩
      · exact .inl (String.toList_inj.1 (by simp [hs, Label.text]))
      · exact .inr ⟨⟨letter, rfl⟩, String.toList_inj.1 (by simp [hs, Label.text]), hself⟩
  case h_4 => cases h

end Shape

theorem Given.has_iff {g : Given} {name : String} :
    g.has name = true ↔ name ∈ g.options.map Prod.fst := by
  simp [has]

theorem Given.add_eq_ok {g g' : Given} {rule : OptionRule} {value : String}
    (h : g.add rule value = .ok g') :
    g'.options = g.options ++ [(rule.name, value)] ∧
      (rule.usage ≠ .values → rule.name ∉ g.options.map Prod.fst) := by
  unfold add at h
  split at h
  case isTrue => cases h
  case isFalse hfree =>
    cases h
    exact ⟨rfl, fun husage hmem => hfree ⟨husage, has_iff.2 hmem⟩⟩

theorem Given.nodup_add {g g' : Given} {rule : OptionRule} {value : String}
    (h : g.add rule value = .ok g') (husage : rule.usage ≠ .values)
    (hnodup : (g.options.map Prod.fst).Nodup) : (g'.options.map Prod.fst).Nodup := by
  obtain ⟨hoptions, hnew⟩ := add_eq_ok h
  rw [hoptions, List.map_append]
  refine List.nodup_append.2 ⟨hnodup, by simp, fun a ha b hb hab => hnew husage ?_⟩
  obtain rfl := List.mem_singleton.1 hb
  rwa [← show a = rule.name from hab]

theorem mem_of_find?_answersTo {rules : List OptionRule} {label : Label} {rule : OptionRule}
    (h : rules.find? (·.answersTo label) = some rule) : rule ∈ rules ∧ rule.answersTo label :=
  ⟨List.mem_of_find?_eq_some h, by simpa using List.find?_some h⟩

/-- How options are written, each with its value; the value of a flag is empty. -/
inductive Written (rules : List OptionRule) : List String → List (String × String) → Prop where
  | nil : Written rules [] []
  | flag {rule : OptionRule} {label : Label} {words : List String}
      {options : List (String × String)} (hrule : rule ∈ rules) (hlabel : rule.answersTo label)
      (husage : rule.usage = .flag) (rest : Written rules words options) :
      Written rules (label.text :: words) ((rule.name, "") :: options)
  /-- The value is a word of its own, which does not look like an option. -/
  | spaced {rule : OptionRule} {label : Label} {value : String} {words : List String}
      {options : List (String × String)} (hrule : rule ∈ rules) (hlabel : rule.answersTo label)
      (husage : rule.usage ≠ .flag) (hplain : Shape.ofText value = .plain)
      (rest : Written rules words options) :
      Written rules (label.text :: value :: words) ((rule.name, value) :: options)
  | joined {rule : OptionRule} {label : Label} {value : String} {words : List String}
      {options : List (String × String)} (hrule : rule ∈ rules) (hlabel : rule.answersTo label)
      (husage : rule.usage ≠ .flag) (rest : Written rules words options) :
      Written rules ((label.text ++ "=" ++ value) :: words) ((rule.name, value) :: options)
  /-- A letter may have its value right behind it. -/
  | attached {rule : OptionRule} {letter : Char} {value : String} {words : List String}
      {options : List (String × String)} (hrule : rule ∈ rules)
      (hlabel : rule.answersTo (.short letter)) (husage : rule.usage ≠ .flag)
      (hvalue : Shape.attached? value.toList = some value) (rest : Written rules words options) :
      Written rules (((Label.short letter).text ++ value) :: words) ((rule.name, value) :: options)

namespace Written

variable {rules : List OptionRule} {label : Label} {rule : OptionRule} {word value : String}

theorem append {start words : List String} {options options' : List (String × String)}
    (h : Written rules start options) (hrest : Written rules words options') :
    Written rules (start ++ words) (options ++ options') := by
  induction h with
  | nil => exact hrest
  | flag hrule hlabel husage _ ih => exact .flag hrule hlabel husage ih
  | spaced hrule hlabel husage hplain _ ih => exact .spaced hrule hlabel husage hplain ih
  | joined hrule hlabel husage _ ih => exact .joined hrule hlabel husage ih
  | attached hrule hlabel husage hvalue _ ih => exact .attached hrule hlabel husage hvalue ih

theorem of_flag (hfind : rules.find? (·.answersTo label) = some rule) (husage : rule.usage = .flag)
    (hshape : Shape.ofText word = .option label none) :
    Written rules [word] [(rule.name, "")] := by
  obtain ⟨hrule, hlabel⟩ := mem_of_find?_answersTo hfind
  obtain ⟨-, rfl⟩ | ⟨_, hsome, -⟩ := Shape.eq_of_ofText_option hshape
  · exact .flag hrule hlabel husage .nil
  · cases hsome

theorem of_spaced (hfind : rules.find? (·.answersTo label) = some rule)
    (husage : rule.usage ≠ .flag) (hshape : Shape.ofText word = .option label none)
    (hplain : Shape.ofText value = .plain) : Written rules [word, value] [(rule.name, value)] := by
  obtain ⟨hrule, hlabel⟩ := mem_of_find?_answersTo hfind
  obtain ⟨-, rfl⟩ | ⟨_, hsome, -⟩ := Shape.eq_of_ofText_option hshape
  · exact .spaced hrule hlabel husage hplain .nil
  · cases hsome

/-- A word that holds an option and its value. -/
theorem of_one_word (hfind : rules.find? (·.answersTo label) = some rule)
    (husage : rule.usage ≠ .flag) (hshape : Shape.ofText word = .option label (some value)) :
    Written rules [word] [(rule.name, value)] := by
  obtain ⟨hrule, hlabel⟩ := mem_of_find?_answersTo hfind
  obtain ⟨hnone, -⟩ | ⟨_, hsome, hword⟩ := Shape.eq_of_ofText_option hshape
  · cases hnone
  · cases hsome
    rcases hword with rfl | ⟨⟨letter, rfl⟩, rfl, hvalue⟩
    · exact .joined hrule hlabel husage .nil
    · exact .attached hrule hlabel husage hvalue .nil

end Written

/-- What going through words from `g` found: options as they are written, and a command behind
them or the end of the line, where two dashes may stand. -/
structure Scanned (rules : List OptionRule) (commands : List String) (g : Given)
    (words : List String) (g' : Given) (next : Option (String × List String)) : Prop where
  written : ∃ level options, Written rules level options ∧ g'.options = g.options ++ options ∧
    (next = none → words = level ∨ words = level ++ ["--"]) ∧
    ∀ name rest, next = some (name, rest) → name ∈ commands ∧ words = level ++ name :: rest
  nodup : (∀ rule ∈ rules, rule.usage ≠ .values) → (g.options.map Prod.fst).Nodup →
    (g'.options.map Prod.fst).Nodup

namespace Scanned

variable {rules : List OptionRule} {commands : List String} {g g₁ g' : Given}
  {words : List String} {next : Option (String × List String)}

/-- Nothing stands at the end of the line. -/
theorem nothing (hwords : words = [] ∨ words = ["--"]) (hoptions : g'.options = g.options) :
    Scanned rules commands g words g' none :=
  ⟨⟨[], [], .nil, by simp [hoptions], fun _ => hwords, nofun⟩, fun _ hnodup => hoptions ▸ hnodup⟩

/-- An option in front of what was found. -/
theorem cons {rule : OptionRule} {value : String} {start : List String} (hrule : rule ∈ rules)
    (hadd : g.add rule value = .ok g₁) (hstart : Written rules start [(rule.name, value)])
    (h : Scanned rules commands g₁ words g' next) :
    Scanned rules commands g (start ++ words) g' next := by
  have hoptions := (Given.add_eq_ok hadd).1
  obtain ⟨level, options, hlevel, hall, hend, hnext⟩ := h.written
  constructor
  · refine ⟨start ++ level, _, hstart.append hlevel, ?_, fun hnone => ?_,
      fun name rest hsome => ?_⟩
    · rw [hall, hoptions, List.append_assoc]
    · rcases hend hnone with rfl | rfl
      · exact .inl rfl
      · exact .inr (List.append_assoc ..).symm
    · obtain ⟨hname, rfl⟩ := hnext name rest hsome
      exact ⟨hname, (List.append_assoc ..).symm⟩
  · intro hrules hnodup
    exact h.nodup hrules (Given.nodup_add hadd (hrules rule hrule) hnodup)

/-- Words that are accepted where no plain words are taken. -/
theorem of_scan (h : scan rules false commands g words = .ok (g', next)) :
    Scanned rules commands g words g' next := by
  fun_induction scan rules false commands g words
  -- Going on behind an option keeps what `cons` says; the cases not named here are refusals.
  case case1 g =>
    cases h
    exact .nothing (.inl rfl) rfl
  case case2 g name rest hname =>
    cases h
    refine ⟨⟨[], [], .nil, (List.append_nil _).symm, nofun, fun _ _ hsome => ?_⟩,
      fun _ hnodup => hnodup⟩
    cases hsome
    exact ⟨hname, rfl⟩
  case case5 g word rest _ hshape hlast =>
    cases h
    obtain rfl := Shape.eq_of_ofText_escape hshape
    obtain rfl := List.isEmpty_iff.1 (by simpa using hlast)
    exact .nothing (.inr rfl) rfl
  case case10 g word rest _ label rule hfind husage g₁ hadd hshape ih =>
    exact (ih h).cons (mem_of_find?_answersTo hfind).1 hadd (.of_flag hfind husage hshape)
  case case12 g word rest _ label rule hfind value g₁ hadd husage hshape ih =>
    exact (ih h).cons (mem_of_find?_answersTo hfind).1 hadd (.of_one_word hfind husage hshape)
  case case14 g word _ label rule hfind value rest g₁ hadd hplain husage hshape ih =>
    exact (ih h).cons (mem_of_find?_answersTo hfind).1 hadd
      (.of_spaced hfind husage hshape hplain)
  case case3 => contradiction
  all_goals cases h

end Scanned
end Courier.CommandLine
