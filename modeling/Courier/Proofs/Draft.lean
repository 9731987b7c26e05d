import Courier.Request
import Mathlib.Data.List.Basic

/-!
Drafts after any number of steps. Each field depends on the steps for this field alone: the last
payment outweighs all offers of one, of which the first counts; the last time to live counts; of
the arguments, what was set after they were last replaced.
-/
namespace Courier

/-- The payment of a session when no step says more. -/
def Session.usualPayment? : Session → Option UInt64
  | .call _ _ => none
  | .install _ => some Request.Draft.installPayment

namespace Request.Draft

def start : Session → Draft
  | .call contract entryPoint => call contract entryPoint
  | .install module => install module

inductive Step where
  | argument (name : String) (value : ArgumentValue)
  | arguments (arguments : Arguments)
  | payment (motes : UInt64)
  | paymentOr (motes : UInt64)
  | ttl (ttl : Duration)
deriving DecidableEq

def apply (d : Draft) : Step → Draft
  | .argument name value => d.withArgument name value
  | .arguments arguments => d.withArguments arguments
  | .payment motes => d.withPayment motes
  | .paymentOr motes => d.paymentOr motes
  | .ttl ttl => d.withTtl ttl

def run (d : Draft) (steps : List Step) : Draft :=
  steps.foldl apply d

def request (session : Session) (steps : List Step) (defaults : DeploySettings) : Request :=
  ((start session).run steps).build defaults

inductive Field where
  | arguments
  | payment
  | ttl
deriving DecidableEq

namespace Step

def field : Step → Field
  | argument _ _ | arguments _ => .arguments
  | payment _ | paymentOr _ => .payment
  | ttl _ => .ttl

def argument? : Step → Option (String × ArgumentValue)
  | argument name value => some (name, value)
  | _ => none

def arguments? : Step → Option Arguments
  | arguments a => some a
  | _ => none

def payment? : Step → Option UInt64
  | payment motes => some motes
  | _ => none

def paymentOr? : Step → Option UInt64
  | paymentOr motes => some motes
  | _ => none

def ttl? : Step → Option Duration
  | ttl t => some t
  | _ => none

def onArguments (a : Arguments) : Step → Arguments
  | argument name value => a.insert name value
  | arguments b => b
  | _ => a

def onPayment (p : Option UInt64) : Step → Option UInt64
  | payment motes => some motes
  | paymentOr motes => some (p.getD motes)
  | _ => p

def onTtl (t : Option Duration) : Step → Option Duration
  | ttl t' => some t'
  | _ => t

end Step

section

variable {α : Type} {read : Draft → α} {act : α → Step → α}

/-- A part of a draft that each step changes on its own is changed on its own by all of them. -/
theorem read_run (hact : ∀ d s, read (d.apply s) = act (read d) s) (d : Draft)
    (steps : List Step) : read (d.run steps) = steps.foldl act (read d) :=
  (List.foldl_hom read fun d s => (hact d s).symm).symm

/-- Steps for other fields can be left out. -/
theorem foldl_filter_field {f : Field} (hkeep : ∀ a s, s.field ≠ f → act a s = a) (a : α)
    (steps : List Step) : (steps.filter (·.field = f)).foldl act a = steps.foldl act a := by
  have hskip : (fun a s => if decide (s.field = f) then act a s else a) = act := by
    funext a s
    by_cases h : s.field = f
    · simp [h]
    · simp [h, hkeep a s h]
  rw [List.foldl_filter, hskip]

/-- Where the steps for a field are the same in the same order, so is what they do to it. -/
theorem foldl_eq_of_filter_eq {f : Field} (hkeep : ∀ a s, s.field ≠ f → act a s = a) (a : α)
    {steps steps' : List Step}
    (h : steps.filter (·.field = f) = steps'.filter (·.field = f)) :
    steps.foldl act a = steps'.foldl act a := by
  rw [← foldl_filter_field hkeep, h, foldl_filter_field hkeep]

end

theorem session_run (d : Draft) (steps : List Step) : (d.run steps).session = d.session := by
  induction steps generalizing d with
  | nil => rfl
  | cons s rest ih =>
    have hstep : (d.apply s).session = d.session := by cases s <;> rfl
    exact (ih (d.apply s)).trans hstep

theorem arguments_run (d : Draft) (steps : List Step) :
    (d.run steps).arguments = steps.foldl Step.onArguments d.arguments :=
  read_run (fun _ s => by cases s <;> rfl) d steps

theorem payment_run (d : Draft) (steps : List Step) :
    (d.run steps).payment = steps.foldl Step.onPayment d.payment :=
  read_run (fun _ s => by cases s <;> rfl) d steps

theorem ttl_run (d : Draft) (steps : List Step) :
    (d.run steps).ttl = steps.foldl Step.onTtl d.ttl :=
  read_run (fun _ s => by cases s <;> rfl) d steps

namespace Step

theorem onArguments_of_field_ne (a : Arguments) (s : Step) (h : s.field ≠ .arguments) :
    s.onArguments a = a := by
  cases s with
  | argument | arguments => exact absurd rfl h
  | payment | paymentOr | ttl => rfl

theorem onPayment_of_field_ne (p : Option UInt64) (s : Step) (h : s.field ≠ .payment) :
    s.onPayment p = p := by
  cases s with
  | payment | paymentOr => exact absurd rfl h
  | argument | arguments | ttl => rfl

theorem onTtl_of_field_ne (t : Option Duration) (s : Step) (h : s.field ≠ .ttl) :
    s.onTtl t = t := by
  cases s with
  | ttl => exact absurd rfl h
  | argument | arguments | payment | paymentOr => rfl

theorem foldl_onTtl (t : Option Duration) (steps : List Step) :
    steps.foldl onTtl t = (steps.filterMap ttl?).getLast?.or t := by
  induction steps generalizing t with
  | nil => rfl
  | cons s rest ih =>
    rw [List.foldl_cons, ih]
    cases s with
    | ttl t' => simp [onTtl, ttl?, List.getLast?_cons]
    | _ => rfl

/-- The last payment counts, or else what is there already, or else the first offer. -/
theorem foldl_onPayment (p : Option UInt64) (steps : List Step) :
    steps.foldl onPayment p =
      (steps.filterMap payment?).getLast?.or (p.or (steps.filterMap paymentOr?).head?) := by
  induction steps generalizing p with
  | nil => simp
  | cons s rest ih =>
    rw [List.foldl_cons, ih]
    cases s with
    | payment motes => simp [onPayment, payment?, List.getLast?_cons]
    | paymentOr motes => cases p <;> simp [onPayment, payment?, paymentOr?]
    | _ => rfl

/-- Unless the arguments are replaced, each one is set in turn. -/
theorem foldl_onArguments (a : Arguments) {steps : List Step}
    (h : ∀ s ∈ steps, s.arguments? = none) :
    steps.foldl onArguments a =
      (steps.filterMap argument?).foldl (fun a e => a.insert e.1 e.2) a := by
  induction steps generalizing a with
  | nil => rfl
  | cons s rest ih =>
    obtain ⟨hs, hrest⟩ := List.forall_mem_cons.1 h
    rw [List.foldl_cons, ih _ hrest]
    cases s with
    | arguments b => simp [arguments?] at hs
    | _ => rfl

end Step

theorem start_eq (session : Session) :
    start session = ⟨session, ∅, session.usualPayment?, none⟩ := by
  cases session <;> rfl

theorem request_eq (session : Session) (steps : List Step) (defaults : DeploySettings) :
    request session steps defaults =
      { session
        arguments := steps.foldl Step.onArguments ∅
        payment := (steps.foldl Step.onPayment session.usualPayment?).getD defaults.paymentAmount
        ttl := (steps.foldl Step.onTtl none).getD defaults.ttl } := by
  unfold request build
  rw [session_run, arguments_run, payment_run, ttl_run, start_eq]

/-- Requests agree when each field is told the same in the same order. -/
theorem request_eq_of_filter_eq (session : Session) (defaults : DeploySettings)
    {steps steps' : List Step}
    (h : ∀ f, steps.filter (·.field = f) = steps'.filter (·.field = f)) :
    request session steps defaults = request session steps' defaults := by
  have harguments := foldl_eq_of_filter_eq Step.onArguments_of_field_ne ∅ (h .arguments)
  have hpayment :=
    foldl_eq_of_filter_eq Step.onPayment_of_field_ne session.usualPayment? (h .payment)
  have httl := foldl_eq_of_filter_eq Step.onTtl_of_field_ne none (h .ttl)
  rw [request_eq, request_eq, harguments, hpayment, httl]

/-- What a request holds after any steps, in any order. The session stays. The last payment counts,
or else the usual one of the session, or else the first offer, or else that of the settings. The
last time to live counts, or else that of the settings. Of the arguments count the last whole list,
or none, and what was set one by one after it. So steps for different fields can change places. -/
theorem request_settled (session : Session) (steps : List Step) (defaults : DeploySettings) :
    (request session steps defaults).session = session ∧
    (request session steps defaults).payment =
      ((((steps.filterMap Step.payment?).getLast?.or session.usualPayment?).or
        (steps.filterMap Step.paymentOr?).head?).getD defaults.paymentAmount) ∧
    (request session steps defaults).ttl =
      (steps.filterMap Step.ttl?).getLast?.getD defaults.ttl ∧
    ((∀ s ∈ steps, s.arguments? = none) →
      (request session steps defaults).arguments =
        Arguments.ofList (steps.filterMap Step.argument?)) ∧
    (∀ before a after, steps = before ++ .arguments a :: after →
      (∀ s ∈ after, s.arguments? = none) →
      (request session steps defaults).arguments =
        (after.filterMap Step.argument?).foldl (fun a e => a.insert e.1 e.2) a) ∧
    ∀ steps' : List Step, (∀ f, steps.filter (·.field = f) = steps'.filter (·.field = f)) →
      request session steps defaults = request session steps' defaults := by
  refine ⟨?_, ?_, ?_, ?_, ?_, ?_⟩
  · rw [request_eq]
  · rw [request_eq, Step.foldl_onPayment, Option.or_assoc]
  · rw [request_eq, Step.foldl_onTtl, Option.or_none]
  · intro h
    rw [request_eq]
    exact Step.foldl_onArguments ∅ h
  · intro before a after hsplit h
    rw [request_eq, hsplit, List.foldl_append, List.foldl_cons]
    exact Step.foldl_onArguments a h
  · intro steps' h
    exact request_eq_of_filter_eq session defaults h

/-- Steps of all kinds in one order. -/
def sampleSteps : List Step :=
  [.argument "amount" (.u64 1), .paymentOr 5, .arguments (Arguments.ofList [("name", .string "N")]),
    .payment 7, .argument "decimals" (.u8 9), .ttl ⟨60, by decide⟩, .argument "name" (.string "M"),
    .payment 8]

def sortedSteps : List Step :=
  [.ttl ⟨60, by decide⟩, .paymentOr 5, .payment 7, .payment 8, .argument "amount" (.u64 1),
    .arguments (Arguments.ofList [("name", .string "N")]), .argument "decimals" (.u8 9),
    .argument "name" (.string "M")]

/-- An installation: replaced arguments, two payments beside an offer, and the steps once more in
another order. -/
theorem request_settled_sampleSteps :
    (request (.install []) [.argument "amount" (.u64 1)] ⟨3, 1000⟩).arguments =
      Arguments.ofList [("amount", .u64 1)] ∧
    (request (.install []) sampleSteps ⟨3, 1000⟩).arguments =
      Arguments.ofList [("name", .string "M"), ("decimals", .u8 9)] ∧
    (request (.install []) sampleSteps ⟨3, 1000⟩).payment = 8 ∧
    (∀ f, sampleSteps.filter (·.field = f) = sortedSteps.filter (·.field = f)) ∧
    request (.install []) sampleSteps ⟨3, 1000⟩ = request (.install []) sortedSteps ⟨3, 1000⟩ := by
  obtain ⟨-, -, -, hnone, -, -⟩ :=
    request_settled (.install []) [.argument "amount" (.u64 1)] ⟨3, 1000⟩
  obtain ⟨-, hpayment, -, -, hlast, horder⟩ :=
    request_settled (.install []) sampleSteps ⟨3, 1000⟩
  have hsame : ∀ f, sampleSteps.filter (·.field = f) = sortedSteps.filter (·.field = f) := by
    intro f
    cases f <;> decide
  refine ⟨hnone (by decide), ?_, hpayment, hsame, horder _ hsame⟩
  rw [hlast [.argument "amount" (.u64 1), .paymentOr 5] (Arguments.ofList [("name", .string "N")])
    [.payment 7, .argument "decimals" (.u8 9), .ttl ⟨60, by decide⟩,
      .argument "name" (.string "M"), .payment 8] rfl (by decide)]
  decide

end Request.Draft
end Courier
