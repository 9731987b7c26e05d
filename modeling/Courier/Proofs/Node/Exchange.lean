import Courier.Node.Basic
import Courier.Proofs.Dialogue.Yields
import Courier.Proofs.Node.Outcome
import Courier.Proofs.Node.Reply

/-!
What a node tells in an exchange, and the requests that reach its addresses: a submission is one
request to the primary address, a question may go to every address.
-/
namespace Courier

theorem Delayed.value_within_eq_ok_iff {α : Type} {limit : Duration}
    {x : Delayed (Except TransportError α)} {a : α} :
    (within limit x).value = .ok a ↔ x.after ≤ limit.ceilMilliseconds ∧ x.value = .ok a := by
  unfold within
  by_cases h : x.after ≤ limit.ceilMilliseconds
  · rw [if_pos h]
    simp [h]
  · rw [if_neg h]
    simp [h]

namespace Node

/-- A request to an address with what came of it. -/
abbrev Trip : Type :=
  (_ : Post) × Delayed Exchange

/-- An exchange that is over by the deadline and gives a result and no error. -/
def Answers (n : Node) (x : Delayed Exchange) (result : Json) : Prop :=
  x.after ≤ n.deadline.ceilMilliseconds ∧ ∃ status body, x.value = .reply status body ∧
    isSuccess status = true ∧ Reply.ofBody? body = some ⟨some result, none⟩

/-- An exchange in which the node accepts a request and gives it an identifier. -/
def Accepts (n : Node) (x : Delayed Exchange) (id : String) : Prop :=
  ∃ result, n.Answers x result ∧ result.get "deploy_hash" = .string id

/-- An exchange gives one identifier. -/
theorem Accepts.unique {n : Node} {x : Delayed Exchange} {a b : String} (ha : n.Accepts x a)
    (hb : n.Accepts x b) : a = b := by
  obtain ⟨v, ⟨-, status, body, hx, -, hbody⟩, hv⟩ := ha
  obtain ⟨w, ⟨-, status', body', hx', -, hbody'⟩, hw⟩ := hb
  obtain ⟨rfl, rfl⟩ : status = status' ∧ body = body' := by simpa [hx] using hx'
  obtain rfl : v = w := by simpa [hbody] using hbody'
  simpa [hv] using hw

/-- An exchange in which the node tells the state of a request. -/
def Reports (n : Node) (x : Delayed Exchange) (status : OutcomeStatus) : Prop :=
  ∃ result, n.Answers x result ∧ outcomeOf result = .ok status

theorem Exchange.result_eq_ok_iff {url : Url} {x : Exchange} {v : Json} :
    x.result url = .ok v ↔ ∃ status body, x = .reply status body ∧ isSuccess status = true ∧
      Reply.ofBody? body = some ⟨some v, none⟩ := by
  cases x with
  | failed => simp [Exchange.result]
  | reply status body =>
    simp only [Exchange.result]
    by_cases hs : isSuccess status = true
    · rw [if_pos hs]
      rcases hreply : Reply.ofBody? body with _ | ⟨_ | w, _ | ⟨code, message⟩⟩ <;> simp [hs, hreply]
    · simp [hs]

/-- A reply in time is an answer if its text is read as a result without an error. -/
theorem exists_answers_of_text {n : Node} {x : Delayed Exchange} {status : Nat} {text : String}
    {check : Json → Bool} (hafter : x.after ≤ n.deadline.ceilMilliseconds)
    (hvalue : x.value = .reply status text.toUTF8.toList) (hstatus : isSuccess status = true)
    (hread : ((Json.Written.ofText? text.toList).bind Reply.ofWritten?).any
      (fun r => r.error.isNone && r.result.any check) = true) :
    ∃ result, n.Answers x result ∧ check result = true := by
  obtain ⟨⟨result, error⟩, hbody, hr⟩ := Reply.exists_ofBody?_of_text hread
  rw [Bool.and_eq_true, Option.isNone_iff_eq_none] at hr
  obtain ⟨rfl, hresult⟩ := hr
  obtain ⟨v, rfl, hv⟩ := (Option.any_eq_true _ _).1 hresult
  exact ⟨v, ⟨hafter, status, _, hvalue, hstatus, hbody⟩, hv⟩

theorem textMember_eq_ok_iff {name : String} {v : Json} {s : String} :
    textMember name v = .ok s ↔ v.get name = .string s := by
  rw [← Json.text?_eq_some_iff]
  unfold textMember
  cases (v.get name).text? <;> simp

theorem textMember_eq_error_iff {name : String} {v : Json} {e : TransportError} :
    textMember name v = .error e ↔
      (∀ s, v.get name ≠ .string s) ∧ e = .malformed ("missing " ++ name) := by
  unfold textMember
  cases v.get name <;> simp [Json.text?, eq_comm]

variable {n : Node} {url : Url} {method : String} {params : Json} {t : List Trip}

/-- An address that cannot be asked is not asked; else there is one request, and its result is
what an exchange in time tells. -/
theorem trips_of_yields_post {r : Except TransportError Json}
    (h : (n.post url method params).Yields t r) :
    (t = [] ∧ ∃ e, r = .error e) ∨
      ∃ x, t = [⟨⟨url, method, params⟩, x⟩] ∧ ∀ v, r = .ok v ↔ n.Answers x v := by
  unfold post at h
  by_cases hurl : url.canBeAsked = true
  · rw [if_pos hurl] at h
    obtain ⟨x, rest, rfl, hrest⟩ := Dialogue.yields_ask.1 h
    obtain ⟨rfl, rfl⟩ := Dialogue.yields_done.1 hrest
    refine .inr ⟨x, rfl, fun v => ?_⟩
    rw [Delayed.value_within_eq_ok_iff, Exchange.result_eq_ok_iff]
    rfl
  · rw [if_neg hurl] at h
    obtain ⟨rfl, rfl⟩ := Dialogue.yields_done.1 h
    exact .inl ⟨rfl, _, rfl⟩

/-- All addresses are asked the same, and a result is one that an address told. -/
theorem trips_of_yields_askEach {last : String} {urls : List Url}
    {r : Except TransportError Json} (h : (n.askEach method params last urls).Yields t r) :
    (∀ x ∈ t, x.1.method = method ∧ x.1.params = params ∧ x.1.url ∈ urls) ∧
      ∀ v, r = .ok v → ∃ x ∈ t, n.Answers x.2 v := by
  induction urls generalizing last t with
  | nil =>
    obtain ⟨rfl, rfl⟩ := Dialogue.yields_done.1 h
    simp
  | cons url rest ih =>
    rw [askEach] at h
    obtain ⟨u, w, first, rfl, hfirst, hrest⟩ := Dialogue.yields_bind.1 h
    -- What the first address does to the log does not depend on who is asked next.
    have hasked : ∀ x ∈ u, x.1.method = method ∧ x.1.params = params ∧ x.1.url = url := by
      rcases trips_of_yields_post hfirst with ⟨rfl, -⟩ | ⟨x, rfl, -⟩ <;> simp
    cases first with
    | ok v =>
      obtain ⟨rfl, rfl⟩ := Dialogue.yields_done.1 hrest
      rw [List.append_nil]
      refine ⟨fun x hx => ?_, fun v' hv => ?_⟩
      · obtain ⟨hm, hp, hu⟩ := hasked x hx
        exact ⟨hm, hp, hu ▸ List.mem_cons_self⟩
      · rcases trips_of_yields_post hfirst with ⟨-, e, he⟩ | ⟨x, rfl, hx⟩
        · cases he
        · exact ⟨_, List.mem_singleton_self _, (hx v').1 hv⟩
    | error e =>
      obtain ⟨hall, hok⟩ := ih hrest
      refine ⟨fun x hx => ?_, fun v hv => ?_⟩
      · rcases List.mem_append.1 hx with hx | hx
        · obtain ⟨hm, hp, hu⟩ := hasked x hx
          exact ⟨hm, hp, hu ▸ List.mem_cons_self⟩
        · obtain ⟨hm, hp, hu⟩ := hall x hx
          exact ⟨hm, hp, List.mem_cons_of_mem _ hu⟩
      · obtain ⟨x, hx, hv⟩ := hok v hv
        exact ⟨x, List.mem_append_right _ hx, hv⟩

def submission (n : Node) (request : Request) : Post :=
  ⟨n.primary, "account_put_deploy", .object [("deploy", request.envelope n.chainName)]⟩

/-- A submission is one request at most, to the primary address, and is accepted exactly when the
node accepts it there. -/
theorem trips_of_yields_submit {request : Request} {r : Except TransportError Receipt}
    (h : (n.submit request).Yields t r) :
    (t = [] ∧ ∃ e, r = .error e) ∨
      ∃ x, t = [⟨n.submission request, x⟩] ∧ ∀ id, r = .ok ⟨id⟩ ↔ n.Accepts x id := by
  unfold submit at h
  rcases Dialogue.yields_andThen.1 h with ⟨u, w, v, rfl, hu, hw⟩ | ⟨e, rfl, he⟩
  · obtain ⟨rfl, rfl⟩ := Dialogue.yields_done.1 hw
    rcases trips_of_yields_post hu with ⟨-, e, he⟩ | ⟨x, rfl, hx⟩
    · cases he
    refine .inr ⟨x, rfl, fun id => ?_⟩
    have hv : n.Answers x v := (hx v).1 rfl
    constructor
    · intro hid
      have hmember : textMember "deploy_hash" v = .ok id := by
        cases htext : textMember "deploy_hash" v <;> simp_all [Except.map]
      exact ⟨v, hv, textMember_eq_ok_iff.1 hmember⟩
    · rintro ⟨v', hv', hget⟩
      obtain rfl : v = v' := by simpa using (hx v').2 hv'
      rw [textMember_eq_ok_iff.2 hget]
      rfl
  · rcases trips_of_yields_post he with ⟨rfl, -⟩ | ⟨x, rfl, hx⟩
    · exact .inl ⟨rfl, e, rfl⟩
    refine .inr ⟨x, rfl, fun id => ⟨fun hid => ?_, ?_⟩⟩
    · cases hid
    · rintro ⟨v, hv, -⟩
      cases (hx v).2 hv

/-- A request for the outcome of a deploy, to any of the addresses. -/
def Inquires (n : Node) (post : Post) (id : String) : Prop :=
  post.method = "info_get_deploy" ∧ post.params = .object [("deploy_hash", .string id)] ∧
    post.url ∈ n.endpoints

/-- Every request for an outcome names the receipt, and an outcome is one that an address told. -/
theorem trips_of_yields_outcome {receipt : Receipt} {r : Except TransportError OutcomeStatus}
    (h : (n.outcome receipt).Yields t r) :
    (∀ x ∈ t, n.Inquires x.1 receipt.id) ∧
      ∀ status, r = .ok status → ∃ x ∈ t, n.Reports x.2 status := by
  unfold outcome query at h
  rcases Dialogue.yields_andThen.1 h with ⟨u, w, v, rfl, hu, hw⟩ | ⟨e, rfl, he⟩
  · obtain ⟨rfl, rfl⟩ := Dialogue.yields_done.1 hw
    obtain ⟨hall, hok⟩ := trips_of_yields_askEach hu
    rw [List.append_nil]
    refine ⟨hall, fun status hstatus => ?_⟩
    obtain ⟨x, hx, hv⟩ := hok v rfl
    exact ⟨x, hx, v, hv, hstatus⟩
  · refine ⟨(trips_of_yields_askEach he).1, fun status hstatus => ?_⟩
    cases hstatus

end Node
end Courier
