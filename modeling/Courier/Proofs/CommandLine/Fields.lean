import Courier.Proofs.CommandLine.Written
import Mathlib.Data.List.Nodup

/-!
What options say: a field under each name. What a form reads is what the options in front of it
say, and the words of one level spell the fields that are read off them.
-/
namespace Courier.CommandLine

/-- What a command line says under the name of an option. -/
inductive Said where
  | flag (stands : Bool)
  | absent
  /-- A text of which this holds. -/
  | value (means : String → Prop)

namespace Said

/-- A text that is read as this value. -/
def as {α : Type} (field : String → Option α) (a : α) : Said :=
  value fun text => field text = some a

/-- Nothing, or a text that is read as this value. -/
def asAny {α : Type} (field : String → Option α) (a? : Option α) : Said :=
  a?.elim absent (as field)

def usage : Said → Usage
  | flag _ => .flag
  | absent => .value
  | value _ => .value

/-- Whether the options say it under a name. -/
def In (options : List (String × String)) (name : String) : Said → Prop
  | flag stands => stands = true ↔ name ∈ options.map Prod.fst
  | absent => name ∉ options.map Prod.fst
  | value means => ∃ text, (name, text) ∈ options ∧ means text

@[simp] theorem usage_flag (stands : Bool) : (flag stands).usage = .flag := rfl

@[simp] theorem usage_as {α : Type} (field : String → Option α) (a : α) :
    (as field a).usage = .value := rfl

@[simp] theorem usage_asAny {α : Type} (field : String → Option α) (a? : Option α) :
    (asAny field a?).usage = .value := by
  cases a? <;> rfl

end Said

abbrev Fields : Type :=
  List (String × Said)

namespace Fields

def rules (fields : Fields) : List OptionRule :=
  fields.map fun f => ⟨f.1, none, f.2.usage⟩

def SaidBy (fields : Fields) (options : List (String × String)) : Prop :=
  ∀ f ∈ fields, f.2.In options f.1

/-- Words that are options with these names, each at most once, and say all the fields. -/
def SpelledBy (fields : Fields) (words : List String) : Prop :=
  ∃ options, Written fields.rules words options ∧ (options.map Prod.fst).Nodup ∧
    fields.SaidBy options

/-- Words of this kind at the end of the line, where two dashes may stand. -/
def SpelledLast (fields : Fields) (args : List String) : Prop :=
  ∃ words, fields.SpelledBy words ∧ (args = words ∨ args = words ++ ["--"])

@[simp] theorem rules_nil : rules [] = [] := rfl

@[simp] theorem rules_cons (name : String) (said : Said) (fields : Fields) :
    rules ((name, said) :: fields) = ⟨name, none, said.usage⟩ :: rules fields := rfl

@[simp] theorem rules_append (a b : Fields) : rules (a ++ b) = rules a ++ rules b :=
  List.map_append

variable {options : List (String × String)}

@[simp] theorem saidBy_nil : SaidBy [] options :=
  List.forall_mem_nil _

@[simp] theorem saidBy_cons {name : String} {said : Said} {fields : Fields} :
    SaidBy ((name, said) :: fields) options ↔ said.In options name ∧ SaidBy fields options :=
  List.forall_mem_cons

@[simp] theorem saidBy_append {a b : Fields} :
    SaidBy (a ++ b) options ↔ SaidBy a options ∧ SaidBy b options :=
  List.forall_mem_append

end Fields

namespace Given

variable {g : Given} {name : String}

theorem values_eq_nil_iff : g.values name = [] ↔ name ∉ g.options.map Prod.fst := by
  rw [values, List.map_eq_nil_iff, List.filter_eq_nil_iff]
  constructor
  · intro h hmem
    obtain ⟨o, ho, hname⟩ := List.mem_map.1 hmem
    exact h o ho (decide_eq_true hname)
  · intro h o ho hname
    exact h (List.mem_map.2 ⟨o, ho, of_decide_eq_true hname⟩)

theorem mem_values_iff {text : String} : text ∈ g.values name ↔ (name, text) ∈ g.options := by
  simp [values]

/-- An option that stands once has one value. -/
theorem head?_values_eq_some_iff (hnodup : (g.options.map Prod.fst).Nodup) {text : String} :
    (g.values name).head? = some text ↔ (name, text) ∈ g.options := by
  constructor
  · intro h
    exact mem_values_iff.1 (List.mem_of_head? h)
  · intro h
    cases hvalues : g.values name with
    | nil => exact absurd (mem_values_iff.2 h) (hvalues ▸ List.not_mem_nil)
    | cons first rest =>
      have hfirst : (name, first) ∈ g.options := mem_values_iff.1 (hvalues ▸ List.mem_cons_self)
      have heq := List.inj_on_of_nodup_map hnodup hfirst h rfl
      rw [List.head?_cons, (Prod.mk.inj heq).2]

end Given

theorem present_eq_ok_iff {α : Type} {x : Option α} {a : α} : present x = .ok a ↔ x = some a := by
  cases x <;> simp [present]

namespace Form

variable {α β : Type} {g : Given} {name : String}

theorem read_map {f : α → β} {x : Form α} {b : β} :
    (f <$> x).read g = some b ↔ ∃ a, x.read g = some a ∧ f a = b :=
  Option.map_eq_some_iff

theorem read_seq {f : Form (α → β)} {x : Form α} {b : β} :
    (f <*> x).read g = some b ↔ ∃ h, f.read g = some h ∧ ∃ a, x.read g = some a ∧ h a = b := by
  change ((f.read g).bind fun f => (x.read g).map f) = some b ↔ _
  simp only [Option.bind_eq_some_iff, Option.map_eq_some_iff]

theorem read_flag {b : Bool} :
    (flag name).read g = some b ↔ (Said.flag b).In g.options name := by
  change some (g.has name) = some b ↔ (b = true ↔ _)
  rw [← Given.has_iff, Option.some.injEq, eq_comm, Bool.eq_iff_iff]

variable {field : String → Option α}

theorem read_required (hnodup : (g.options.map Prod.fst).Nodup) {a : α} :
    (required name field).read g = some a ↔ (Said.as field a).In g.options name := by
  change (g.values name).head?.bind field = some a ↔ ∃ text, _
  simp only [Option.bind_eq_some_iff, Given.head?_values_eq_some_iff hnodup]

theorem read_optional (hnodup : (g.options.map Prod.fst).Nodup) {a? : Option α} :
    (optional name field).read g = some a? ↔ (Said.asAny field a?).In g.options name := by
  cases a? with
  | none =>
    change _ ↔ name ∉ _
    rw [← Given.values_eq_nil_iff]
    dsimp only [optional]
    cases g.values name <;> simp
  | some a =>
    change _ ↔ (Said.as field a).In g.options name
    rw [← read_required hnodup]
    dsimp only [optional, required]
    cases g.values name <;> simp

theorem read_oneOf {x y : Form (Option α)} {a : α} :
    (oneOf x y).read g = some a ↔
      x.read g = some (some a) ∧ y.read g = some none ∨
        x.read g = some none ∧ y.read g = some (some a) := by
  dsimp only [oneOf]
  rcases x.read g with _ | _ | b <;> rcases y.read g with _ | _ | c <;> simp

@[simp] theorem rules_map {f : α → β} {x : Form α} : (f <$> x).rules = x.rules := rfl

@[simp] theorem rules_seq {f : Form (α → β)} {x : Form α} :
    (f <*> x).rules = f.rules ++ x.rules := rfl

@[simp] theorem rules_flag : (flag name).rules = [⟨name, none, .flag⟩] := rfl

@[simp] theorem rules_required : (required name field).rules = [⟨name, none, .value⟩] := rfl

@[simp] theorem rules_optional : (optional name field).rules = [⟨name, none, .value⟩] := rfl

theorem reading_eq_ok {f : Form α} {args : List String} {a : α} (h : f.reading args = .ok a) :
    ∃ g next, scan f.rules f.takesWords [] .empty args = .ok (g, next) ∧ f.read g = some a := by
  unfold reading at h
  split at h
  case h_1 => cases h
  case h_2 g next hscan => exact ⟨g, next, hscan, present_eq_ok_iff.1 h⟩

/-- A form that reads the calls with one command off the options that say their fields. -/
structure Spells (f : Form α) (name : String) (command : α → String) (fields : α → Fields) :
    Prop where
  takesWords : f.takesWords = false
  single : ∀ rule ∈ f.rules, rule.usage ≠ .values
  read : ∀ g a, (g.options.map Prod.fst).Nodup → f.read g = some a →
    command a = name ∧ f.rules = (fields a).rules ∧ (fields a).SaidBy g.options

theorem Spells.spelledLast {f : Form α} {command : α → String} {fields : α → Fields}
    (hf : f.Spells name command fields) {args : List String} {a : α}
    (h : f.reading args = .ok a) : command a = name ∧ (fields a).SpelledLast args := by
  obtain ⟨g, next, hscan, hvalue⟩ := reading_eq_ok h
  rw [hf.takesWords] at hscan
  have hscanned := Scanned.of_scan hscan
  have hnodup := hscanned.nodup hf.single List.nodup_nil
  obtain ⟨level, options, hwritten, hoptions, hend, hnext⟩ := hscanned.written
  obtain rfl : g.options = options := hoptions
  obtain ⟨hname, hrules, hsaid⟩ := hf.read g a hnodup hvalue
  refine ⟨hname, level, ⟨g.options, hrules ▸ hwritten, hnodup, hsaid⟩, hend ?_⟩
  cases next with
  | none => rfl
  | some next => exact absurd (hnext _ _ rfl).1 List.not_mem_nil

/-- A command of a menu, with the options of the level above in front of it. -/
theorem over_eq_ok {f : Form α} (hwords : f.takesWords = false)
    (hsingle : ∀ rule ∈ f.rules, rule.usage ≠ .values) {menu : List (String × Reading β)}
    {args : List String} {a : α} {b : β} (h : f.over menu args = .ok (a, b)) :
    ∃ g level name read rest, Written f.rules level g.options ∧
      (g.options.map Prod.fst).Nodup ∧ f.read g = some a ∧ (name, read) ∈ menu ∧
      read rest = .ok b ∧ args = level ++ name :: rest := by
  unfold Form.over at h
  rw [hwords] at h
  split at h
  case h_1 => cases h
  case h_2 => cases h
  case h_3 g name rest hscan =>
    split at h
    case isTrue => cases h
    case isFalse =>
      split at h
      case h_1 => cases h
      case h_2 name' read hfind =>
        split at h
        case h_1 => cases h
        case h_2 b' hb =>
          have hscanned := Scanned.of_scan hscan
          obtain ⟨level, options, hwritten, hoptions, -, hnext⟩ := hscanned.written
          obtain rfl : g.options = options := hoptions
          obtain rfl : name' = name := by simpa using List.find?_some hfind
          obtain ⟨a', ha, hab⟩ := Except.map_eq_ok_iff.1 h
          cases hab
          exact ⟨g, level, name', read, rest, hwritten, hscanned.nodup hsingle List.nodup_nil,
            present_eq_ok_iff.1 ha, List.mem_of_find?_eq_some hfind, hb, (hnext _ _ rfl).2⟩

end Form
end Courier.CommandLine
