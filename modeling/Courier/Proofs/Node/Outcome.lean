import Courier.Node.Outcome
import Mathlib.Data.List.Basic

/-!
What an answer of a node tells of a request: nothing yet, a verdict, or nothing that can be read.
It depends on the one execution result in the answer, wherever that stands, and on nothing else.
-/
namespace Courier

theorem Json.text?_eq_some_iff {v : Json} {s : String} : v.text? = some s ↔ v = .string s := by
  cases v <;> simp [Json.text?]

theorem Json.isNull_iff {v : Json} : v.isNull = true ↔ v = .null := by
  cases v <;> simp [isNull]

/-- Only an object has members. -/
theorem Json.exists_members_of_member? {v w : Json} {name : String} (h : v.member? name = some w) :
    ∃ members, v = .object members := by
  cases v <;> simp_all [Json.member?]

theorem Json.get_of_member? {v w : Json} {name : String} (h : v.member? name = some w) :
    v.get name = w := by
  rw [Json.get, h, Option.getD_some]

theorem Json.get_eq_string_iff {v : Json} {name s : String} :
    v.get name = .string s ↔ v.member? name = some (.string s) := by
  cases h : v.member? name <;> simp [Json.get, h]

namespace Node

/-- An execution result in one of its two forms. -/
inductive ExecutionResult where
  /-- Success and failure are the names of members. -/
  | named (r : Json)
  /-- A failure is told by its message. -/
  | messaged (r : Json)

/-- The execution result that an answer holds: the first of a list, or a single one under the name
of its version. The list comes before the single one, and the second version before the first. -/
inductive Holds : Json → ExecutionResult → Prop where
  | listed {v first : Json} {rest : List Json}
      (hresults : v.member? "execution_results" = some (.array (first :: rest))) :
      Holds v (.named (first.get "result"))
  | version1 {v info exec r : Json} (hresults : v.member? "execution_results" = none)
      (hinfo : v.member? "execution_info" = some info)
      (hexec : info.member? "execution_result" = some exec)
      (hversion2 : exec.member? "Version2" = none) (hversion1 : exec.member? "Version1" = some r) :
      Holds v (.named r)
  | version2 {v info exec r : Json} (hresults : v.member? "execution_results" = none)
      (hinfo : v.member? "execution_info" = some info)
      (hexec : info.member? "execution_result" = some exec)
      (hversion2 : exec.member? "Version2" = some r) : Holds v (.messaged r)

/-- An answer to a request that is not executed yet: its list is empty, or the single execution
result is `null` or missing, as it is wherever the information is no object. -/
inductive Awaits : Json → Prop where
  | unlisted {v : Json} (hresults : v.member? "execution_results" = some (.array [])) : Awaits v
  | unset {v info : Json} (hresults : v.member? "execution_results" = none)
      (hinfo : v.member? "execution_info" = some info)
      (hexec : info.member? "execution_result" = none ∨
        info.member? "execution_result" = some .null) : Awaits v

/-- The verdict that an execution result means. A success is a part of the result or all of it. -/
inductive ExecutionResult.Means : ExecutionResult → Verdict → Prop where
  | success {r payload : Json} (hsuccess : r.member? "Success" = some payload) :
      Means (.named r) (.success payload)
  | failure {r failure : Json} (hsuccess : r.member? "Success" = none)
      (hfailure : r.member? "Failure" = some failure) :
      Means (.named r) (.failure ((failure.get "error_message").text?.getD "unknown error"))
  | message {r : Json} {message : String} (hmessage : r.get "error_message" = .string message) :
      Means (.messaged r) (.failure message)
  | noMessage {r : Json} (hmessage : ∀ message, r.get "error_message" ≠ .string message) :
      Means (.messaged r) (.success r)

def ExecutionResult.verdict : ExecutionResult → Except TransportError Verdict
  | named r => verdictOf r
  | messaged r => .ok (messageVerdict r)

theorem verdictOf_eq_ok_iff {r : Json} {verdict : Verdict} :
    verdictOf r = .ok verdict ↔ (ExecutionResult.named r).Means verdict := by
  unfold verdictOf
  constructor
  · intro h
    split at h
    case h_1 payload _ hsuccess =>
      cases h
      exact .success hsuccess
    case h_2 failure hsuccess hfailure =>
      cases h
      exact .failure hsuccess hfailure
    case h_3 => cases h
  · rintro (hsuccess | ⟨hsuccess, hfailure⟩)
    · simp [hsuccess]
    · simp [hsuccess, hfailure]

theorem messageVerdict_eq_iff {r : Json} {verdict : Verdict} :
    messageVerdict r = verdict ↔ (ExecutionResult.messaged r).Means verdict := by
  unfold messageVerdict
  constructor
  · rintro rfl
    split
    case h_1 message hmessage => exact .message (Json.text?_eq_some_iff.1 hmessage)
    case h_2 hnone =>
      refine .noMessage fun message hmessage => ?_
      rw [Json.text?_eq_some_iff.2 hmessage] at hnone
      cases hnone
  · rintro (⟨⟩ | ⟨⟩ | hmessage | hmessage)
    · rw [Json.text?_eq_some_iff.2 hmessage]
    · have hnone : (r.get "error_message").text? = none :=
        Option.eq_none_iff_forall_ne_some.2 fun message h =>
          hmessage message (Json.text?_eq_some_iff.1 h)
      rw [hnone]

namespace ExecutionResult

variable {x : ExecutionResult}

theorem verdict_eq_ok_iff {verdict : Verdict} : x.verdict = .ok verdict ↔ x.Means verdict := by
  cases x with
  | named r => exact verdictOf_eq_ok_iff
  | messaged r =>
    rw [← messageVerdict_eq_iff, ExecutionResult.verdict, Except.ok.injEq]

theorem exists_means_named_iff {r : Json} : (∃ verdict, (named r).Means verdict) ↔
    r.member? "Success" ≠ none ∨ r.member? "Failure" ≠ none := by
  constructor
  · rintro ⟨_, hsuccess | ⟨-, hfailure⟩⟩
    · exact .inl (by simp [hsuccess])
    · exact .inr (by simp [hfailure])
  · intro h
    cases hsuccess : r.member? "Success" with
    | some payload => exact ⟨_, .success hsuccess⟩
    | none =>
      obtain ⟨failure, hfailure⟩ :=
        Option.ne_none_iff_exists'.1 (h.resolve_left (not_not.2 hsuccess))
      exact ⟨_, .failure hsuccess hfailure⟩

theorem means_messageVerdict (r : Json) : (messaged r).Means (messageVerdict r) :=
  messageVerdict_eq_iff.1 rfl

theorem verdict_eq_error {e : TransportError} (h : x.verdict = .error e) :
    ∃ detail, e = .malformed detail := by
  cases x with
  | named r =>
    simp only [verdict, verdictOf] at h
    split at h
    case h_3 =>
      cases h
      exact ⟨_, rfl⟩
    all_goals cases h
  | messaged r => cases h

end ExecutionResult

/-- The outcome is what the execution result means. -/
theorem outcomeOf_of_holds {v : Json} {x : ExecutionResult} (h : Holds v x) :
    outcomeOf v = x.verdict.map .executed := by
  cases h with
  | listed hresults => simp [outcomeOf, hresults, listedOutcome, ExecutionResult.verdict]
  | version1 hresults hinfo hexec hversion2 hversion1 =>
    obtain ⟨members, rfl⟩ := Json.exists_members_of_member? hversion1
    simp [outcomeOf, hresults, hinfo, Json.get_of_member? hexec, versionedOutcome, hversion2,
      hversion1, ExecutionResult.verdict]
  | version2 hresults hinfo hexec hversion2 =>
    obtain ⟨members, rfl⟩ := Json.exists_members_of_member? hversion2
    simp [outcomeOf, hresults, hinfo, Json.get_of_member? hexec, versionedOutcome, hversion2,
      ExecutionResult.verdict, Except.map]

theorem outcomeOf_of_awaits {v : Json} (h : Awaits v) : outcomeOf v = .ok .pending := by
  cases h with
  | unlisted hresults => simp [outcomeOf, hresults, listedOutcome]
  | unset hresults hinfo hexec =>
    have hget := hexec.elim (fun h => by rw [Json.get, h]; rfl) Json.get_of_member?
    simp [outcomeOf, hresults, hinfo, hget, versionedOutcome]

theorem versionedOutcome_cases (exec : Json) :
    exec = .null ∨ (∃ r, exec.member? "Version2" = some r) ∨
      (∃ r, exec.member? "Version2" = none ∧ exec.member? "Version1" = some r) ∨
      ∃ detail, versionedOutcome exec = .error (.malformed detail) := by
  unfold versionedOutcome
  split
  case h_1 => exact .inl rfl
  case h_2 r _ hversion2 => exact .inr (.inl ⟨r, hversion2⟩)
  case h_3 r _ hversion2 hversion1 => exact .inr (.inr (.inl ⟨r, hversion2, hversion1⟩))
  case h_4 => exact .inr (.inr (.inr ⟨_, rfl⟩))

/-- An answer awaits its outcome, holds an execution result, or cannot be read. -/
theorem outcomeOf_cases (v : Json) :
    Awaits v ∨ (∃ x, Holds v x) ∨ ∃ detail, outcomeOf v = .error (.malformed detail) := by
  cases hresults : v.member? "execution_results" with
  | some results =>
    rcases results with _ | _ | _ | _ | _ | (_ | ⟨first, rest⟩) | _
    case array.nil => exact .inl (.unlisted hresults)
    case array.cons => exact .inr (.inl ⟨_, .listed hresults⟩)
    all_goals exact .inr (.inr ⟨_, by rw [outcomeOf, hresults]; rfl⟩)
  | none =>
    cases hinfo : v.member? "execution_info" with
    | none => exact .inr (.inr ⟨_, by rw [outcomeOf, hresults, hinfo]⟩)
    | some info =>
      cases hexec : info.member? "execution_result" with
      | none => exact .inl (.unset hresults hinfo (.inl hexec))
      | some exec =>
        rcases versionedOutcome_cases exec with
          rfl | ⟨r, hversion2⟩ | ⟨r, hversion2, hversion1⟩ | ⟨detail, herror⟩
        · exact .inl (.unset hresults hinfo (.inr hexec))
        · exact .inr (.inl ⟨_, .version2 hresults hinfo hexec hversion2⟩)
        · exact .inr (.inl ⟨_, .version1 hresults hinfo hexec hversion2 hversion1⟩)
        · refine .inr (.inr ⟨detail, ?_⟩)
          rw [outcomeOf, hresults, hinfo, ← herror]
          exact congrArg versionedOutcome (Json.get_of_member? hexec)

theorem outcomeOf_eq_pending_iff {v : Json} : outcomeOf v = .ok .pending ↔ Awaits v := by
  refine ⟨fun h => ?_, outcomeOf_of_awaits⟩
  rcases outcomeOf_cases v with hawaits | ⟨x, hx⟩ | ⟨detail, herror⟩
  · exact hawaits
  · rw [outcomeOf_of_holds hx] at h
    generalize x.verdict = verdict at h
    cases verdict <;> cases h
  · rw [herror] at h
    cases h

theorem outcomeOf_eq_executed_iff {v : Json} {verdict : Verdict} :
    outcomeOf v = .ok (.executed verdict) ↔ ∃ x, Holds v x ∧ x.Means verdict := by
  constructor
  · intro h
    rcases outcomeOf_cases v with hawaits | ⟨x, hx⟩ | ⟨detail, herror⟩
    · rw [outcomeOf_of_awaits hawaits] at h
      cases h
    · rw [outcomeOf_of_holds hx] at h
      cases hverdict : x.verdict with
      | ok verdict' =>
        rw [hverdict] at h
        cases h
        exact ⟨x, hx, ExecutionResult.verdict_eq_ok_iff.1 hverdict⟩
      | error e =>
        rw [hverdict] at h
        cases h
    · rw [herror] at h
      cases h
  · rintro ⟨x, hx, hmeans⟩
    rw [outcomeOf_of_holds hx, ExecutionResult.verdict_eq_ok_iff.2 hmeans]
    rfl

/-- All errors of reading an answer say that it is not of the expected form. -/
theorem outcomeOf_eq_error {v : Json} {e : TransportError} (h : outcomeOf v = .error e) :
    ∃ detail, e = .malformed detail := by
  rcases outcomeOf_cases v with hawaits | ⟨x, hx⟩ | ⟨detail, herror⟩
  · rw [outcomeOf_of_awaits hawaits] at h
    cases h
  · rw [outcomeOf_of_holds hx] at h
    cases hverdict : x.verdict with
    | ok verdict =>
      rw [hverdict] at h
      cases h
    | error e' =>
      rw [hverdict] at h
      cases h
      exact ExecutionResult.verdict_eq_error hverdict
  · rw [herror] at h
    cases h
    exact ⟨detail, rfl⟩

/-- An answer is classified by its list of execution results if it has one, and else by its
single execution result. It is pending, executed or malformed under these conditions and no
others, and a named result means the same wherever it stands. -/
theorem outcome_classified :
    (∀ v w : Json, v.member? "execution_results" = w.member? "execution_results" →
      (v.member? "execution_results" = none →
        v.member? "execution_info" = w.member? "execution_info") → outcomeOf v = outcomeOf w) ∧
    (∀ v w r : Json, Holds v (.named r) → Holds w (.named r) → outcomeOf v = outcomeOf w) ∧
    (∀ v : Json, outcomeOf v = .ok .pending ↔ Awaits v) ∧
    (∀ v : Json, (∃ verdict, outcomeOf v = .ok (.executed verdict)) ↔
      (∃ r, Holds v (.named r) ∧ (r.member? "Success" ≠ none ∨ r.member? "Failure" ≠ none)) ∨
        ∃ r, Holds v (.messaged r)) ∧
    (∀ (v : Json) (verdict : Verdict),
      outcomeOf v = .ok (.executed verdict) ↔ ∃ x, Holds v x ∧ x.Means verdict) ∧
    ∀ v : Json, (∃ status, outcomeOf v = .ok status) ∨
      ∃ detail, outcomeOf v = .error (.malformed detail) := by
  refine ⟨fun v w hresults hinfo => ?_, fun v w r hv hw => ?_, fun v => outcomeOf_eq_pending_iff,
    fun v => ?_, fun v verdict => outcomeOf_eq_executed_iff, fun v => ?_⟩
  · unfold outcomeOf
    rw [← hresults]
    cases hlist : v.member? "execution_results" with
    | some results => rfl
    | none => rw [hinfo hlist]
  · rw [outcomeOf_of_holds hv, outcomeOf_of_holds hw]
  · simp only [outcomeOf_eq_executed_iff]
    constructor
    · rintro ⟨verdict, x, hx, hmeans⟩
      cases x with
      | named r => exact .inl ⟨r, hx, ExecutionResult.exists_means_named_iff.1 ⟨verdict, hmeans⟩⟩
      | messaged r => exact .inr ⟨r, hx⟩
    · rintro (⟨r, hx, hread⟩ | ⟨r, hx⟩)
      · obtain ⟨verdict, hmeans⟩ := ExecutionResult.exists_means_named_iff.2 hread
        exact ⟨verdict, _, hx, hmeans⟩
      · exact ⟨_, _, hx, ExecutionResult.means_messageVerdict r⟩
  · cases h : outcomeOf v with
    | ok status => exact .inl ⟨status, rfl⟩
    | error e =>
      obtain ⟨detail, rfl⟩ := outcomeOf_eq_error h
      exact .inr ⟨detail, rfl⟩

/-- Two answers that differ beside their lists, and a newer one with the same result. -/
theorem outcome_classified_sample :
    let r := Json.object [("Success", .string "10")]
    let results := Json.array [.object [("result", r)], .integer 5]
    let v := Json.object [("deploy", .null), ("execution_results", results)]
    let w := Json.object [("execution_results", results), ("execution_info", .null)]
    let u := Json.object [("execution_info",
      .object [("execution_result", .object [("Version1", r)])])]
    v.member? "execution_results" = w.member? "execution_results" ∧
      outcomeOf v = outcomeOf w ∧ Holds w (.named r) ∧ Holds u (.named r) ∧
      outcomeOf w = outcomeOf u := by
  intro r results v w u
  obtain ⟨hlocal, hshapes, -⟩ := outcome_classified
  have hfirst : w.member? "execution_results" =
      some (.array [.object [("result", r)], .integer 5]) := rfl
  have hw : Holds w (.named r) := .listed hfirst
  have hu : Holds u (.named r) := .version1 rfl rfl rfl rfl rfl
  exact ⟨rfl, hlocal v w rfl (fun h => by cases h), hw, hu, hshapes w u r hw hu⟩

/-- An execution result that tells of no error: it is named a success, or it is an object without
a message or with `null` in its place. -/
def ExecutionResult.ReportsNoError : ExecutionResult → Prop
  | named r => ∃ payload, r.member? "Success" = some payload
  | messaged r => (∃ members, r = .object members) ∧
      (r.member? "error_message" = none ∨ r.member? "error_message" = some .null)

/-- From this answer a success is read only if its execution result tells of no error. -/
def ReadSafely (v : Json) : Prop :=
  ∀ payload, outcomeOf v = .ok (.executed (.success payload)) → ∃ x, Holds v x ∧ x.ReportsNoError

theorem Holds.unique {v : Json} {x y : ExecutionResult} (hx : Holds v x) (hy : Holds v y) :
    x = y := by
  cases hx <;> cases hy <;> simp_all

/-- A success is read safely from every answer but those whose messaged result is no object, or
has a message that is neither a text nor `null`. -/
theorem readSafely_iff (v : Json) :
    ReadSafely v ↔ ∀ r, Holds v (.messaged r) → (∃ members, r = .object members) ∧
      (r.member? "error_message" = none ∨ r.member? "error_message" = some .null ∨
        ∃ message, r.member? "error_message" = some (.string message)) := by
  constructor
  · intro hsafe r hr
    by_cases htext : ∃ message, r.get "error_message" = .string message
    · obtain ⟨message, hmessage⟩ := htext
      have hmember := Json.get_eq_string_iff.1 hmessage
      exact ⟨Json.exists_members_of_member? hmember, .inr (.inr ⟨message, hmember⟩)⟩
    · have hmeans : (ExecutionResult.messaged r).Means (.success r) :=
        .noMessage fun message hmessage => htext ⟨message, hmessage⟩
      obtain ⟨x, hx, hno⟩ := hsafe r (outcomeOf_eq_executed_iff.2 ⟨_, hr, hmeans⟩)
      obtain rfl := hx.unique hr
      exact ⟨hno.1, hno.2.imp_right .inl⟩
  · intro h payload houtcome
    obtain ⟨x, hx, hmeans⟩ := outcomeOf_eq_executed_iff.1 houtcome
    refine ⟨x, hx, ?_⟩
    cases hmeans with
    | success hsuccess => exact ⟨payload, hsuccess⟩
    | noMessage hmessage =>
      obtain ⟨hobject, hnone | hnull | ⟨message, htext⟩⟩ := h _ hx
      · exact ⟨hobject, .inl hnone⟩
      · exact ⟨hobject, .inr hnull⟩
      · exact absurd (Json.get_of_member? htext) (hmessage message)

/-- A message that is a number is passed over, and the result is told as a success. -/
theorem not_readSafely_numericMessage :
    ¬ ReadSafely (.object [("execution_info", .object [("execution_result",
      .object [("Version2", .object [("error_message", .integer 5)])])])]) := by
  intro hsafe
  obtain ⟨x, hx, hno⟩ := hsafe (.object [("error_message", .integer 5)]) rfl
  obtain rfl := hx.unique (.version2 (r := .object [("error_message", .integer 5)]) rfl rfl rfl rfl)
  rcases hno.2 with hnone | hnull
  · cases hnone
  · cases hnull

end Node
end Courier
