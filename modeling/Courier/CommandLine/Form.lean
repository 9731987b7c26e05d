import Courier.Text.Cut

/-!
Forms: which options and words a command takes, and what it makes of them. A form may stand over a
menu of commands; the words after the name of a command belong to that command.
-/
namespace Courier.CommandLine

/-- Why a command line is not carried out. -/
inductive Refusal where
  /-- The caller asks how commands are used. -/
  | help
  /-- The words fit no command. -/
  | misuse
deriving DecidableEq, Repr

/-- How often an option may stand, and whether a value follows it. -/
inductive Usage where
  /-- At most once, without a value. -/
  | flag
  /-- At most once, with a value. -/
  | value
  /-- Any number of times, each with a value. -/
  | values
deriving DecidableEq, Repr

structure OptionRule where
  name : String
  letter? : Option Char
  usage : Usage
deriving DecidableEq, Repr

inductive Label where
  | long (name : String)
  | short (letter : Char)
deriving DecidableEq, Repr

def OptionRule.answersTo (r : OptionRule) : Label → Bool
  | .long name => r.name = name
  | .short letter => r.letter? = some letter

inductive Shape where
  /-- Two dashes alone: all that follows is plain. -/
  | escape
  /-- An option, perhaps with a value in the same word. -/
  | option (label : Label) (value? : Option String)
  | plain
deriving DecidableEq, Repr

namespace Shape

/-- The value in the same word as a letter, with or without an equals sign. -/
def attached? : List Char → Option String
  | [] => none
  | '=' :: value => some (String.ofList value)
  | value => some (String.ofList value)

/-- A dash alone is plain. -/
def ofText (s : String) : Shape :=
  match s.toList with
  | ['-', '-'] => .escape
  | '-' :: '-' :: rest =>
    match Text.cutAt '=' rest with
    | none => .option (.long (String.ofList rest)) none
    | some (name, value) => .option (.long (String.ofList name)) (some (String.ofList value))
  | '-' :: letter :: rest => .option (.short letter) (attached? rest)
  | _ => .plain

end Shape

/-- What stands at one level of a command line. -/
structure Given where
  /-- Options with their values, in their order; the value of a flag is empty. -/
  options : List (String × String)
  words : List String
deriving DecidableEq, Repr

namespace Given

def empty : Given := ⟨[], []⟩

def has (g : Given) (name : String) : Bool :=
  g.options.any fun o => o.1 = name

def values (g : Given) (name : String) : List String :=
  (g.options.filter fun o => o.1 = name).map Prod.snd

def addWords (g : Given) (words : List String) : Given :=
  { g with words := g.words ++ words }

/-- Adds an option, unless it stands once too often. -/
def add (g : Given) (rule : OptionRule) (value : String) : Except Refusal Given :=
  if rule.usage ≠ .values ∧ g.has rule.name then .error .misuse
  else .ok { g with options := g.options ++ [(rule.name, value)] }

end Given

def helpName : String := "help"
def helpLetter : Char := 'h'

/-- Asking for help is understood at every level; any other unknown option is not. -/
def unknownOption : Label → Option String → Refusal
  | .long name, none => if name = helpName then .help else .misuse
  | .short letter, _ => if letter = helpLetter then .help else .misuse
  | .long _, some _ => .misuse

/-- Goes through the words of one level until they end or a command follows. A value in a word of
its own may not look like an option. -/
def scan (rules : List OptionRule) (takesWords : Bool) (commands : List String) (g : Given) :
    List String → Except Refusal (Given × Option (String × List String))
  | [] => .ok (g, none)
  | word :: rest =>
    if word ∈ commands then .ok (g, some (word, rest))
    else
      match Shape.ofText word with
      | .plain =>
        if takesWords then scan rules takesWords commands (g.addWords [word]) rest
        else .error .misuse
      | .escape =>
        if takesWords || rest.isEmpty then .ok (g.addWords rest, none) else .error .misuse
      | .option label value? =>
        match rules.find? (·.answersTo label) with
        | none => .error (unknownOption label value?)
        | some rule =>
          match rule.usage, value? with
          | .flag, some _ => .error .misuse
          | .flag, none =>
            match g.add rule "" with
            | .error r => .error r
            | .ok g => scan rules takesWords commands g rest
          | _, some value =>
            match g.add rule value with
            | .error r => .error r
            | .ok g => scan rules takesWords commands g rest
          | _, none =>
            match rest with
            | [] => .error .misuse
            | value :: rest =>
              match Shape.ofText value, g.add rule value with
              | .plain, .ok g => scan rules takesWords commands g rest
              | _, _ => .error .misuse

/-- What one level of a command line holds and how it is read. -/
structure Form (α : Type) where
  rules : List OptionRule
  takesWords : Bool
  read : Given → Option α

namespace Form

/-- Takes nothing. -/
def just {α : Type} (a : α) : Form α where
  rules := []
  takesWords := false
  read _ := some a

def map {α β : Type} (f : α → β) (x : Form α) : Form β where
  rules := x.rules
  takesWords := x.takesWords
  read g := (x.read g).map f

/-- Takes what either form takes. -/
def seq {α β : Type} (f : Form (α → β)) (x : Form α) : Form β where
  rules := f.rules ++ x.rules
  takesWords := f.takesWords || x.takesWords
  read g := (f.read g).bind fun f => (x.read g).map f

instance : Applicative Form where
  pure := just
  map := map
  seq f x := f.seq (x ())

def flag (name : String) : Form Bool where
  rules := [⟨name, none, .flag⟩]
  takesWords := false
  read g := some (g.has name)

def optional {α : Type} (name : String) (field : String → Option α) : Form (Option α) where
  rules := [⟨name, none, .value⟩]
  takesWords := false
  read g :=
    match g.values name with
    | [] => some none
    | text :: _ => (field text).map some

def required {α : Type} (name : String) (field : String → Option α) : Form α where
  rules := [⟨name, none, .value⟩]
  takesWords := false
  read g := (g.values name).head?.bind field

def repeated {α : Type} (name : String) (field : String → Option α) : Form (List α) where
  rules := [⟨name, none, .values⟩]
  takesWords := false
  read g := (g.values name).mapM field

def words : Form (List String) where
  rules := []
  takesWords := true
  read g := if g.words.isEmpty then none else some g.words

def oneOf {α : Type} (a b : Form (Option α)) : Form α where
  rules := a.rules ++ b.rules
  takesWords := a.takesWords || b.takesWords
  read g :=
    match a.read g, b.read g with
    | some (some x), some none => some x
    | some none, some (some x) => some x
    | _, _ => none

def withLetter {α : Type} (letter : Char) (f : Form α) : Form α :=
  { f with rules := f.rules.map fun r => { r with letter? := some letter } }

end Form

abbrev Reading (α : Type) : Type :=
  List String → Except Refusal α

/-- A value that may be missing. -/
def present {α : Type} (x : Option α) : Except Refusal α :=
  x.elim (.error .misuse) .ok

/-- Reads a command that has no commands below it. -/
def Form.reading {α : Type} (f : Form α) : Reading α := fun args =>
  match scan f.rules f.takesWords [] .empty args with
  | .error r => .error r
  | .ok (g, _) => present (f.read g)

def helpOn {α : Type} (menu : List (String × Reading α)) : List String → Refusal
  | [] => .help
  | name :: path =>
    match menu.find? (·.1 = name) with
    | none => .misuse
    | some (_, read) =>
      match read (if path.isEmpty then ["--" ++ helpName] else helpName :: path) with
      | .error r => r
      | .ok _ => .misuse

/-- Reads a command that stands over a menu of others, one of which has to follow. -/
def Form.over {α β : Type} (f : Form α) (menu : List (String × Reading β)) :
    Reading (α × β) := fun args =>
  match scan f.rules f.takesWords (helpName :: menu.map Prod.fst) .empty args with
  | .error r => .error r
  | .ok (_, none) => .error .misuse
  | .ok (g, some (name, rest)) =>
    if name = helpName then .error (helpOn menu rest)
    else
      match menu.find? (·.1 = name) with
      | none => .error .misuse
      | some (_, read) =>
        match read rest with
        | .error r => .error r
        | .ok b => (present (f.read g)).map fun a => (a, b)

end Courier.CommandLine
