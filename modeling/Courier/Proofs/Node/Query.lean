import Courier.Proofs.Node.Exchange

/-!
How a question goes from address to address. Each is asked in turn until one gives a result; the
addresses after that one have no part in the answer.
-/
namespace Courier.Node

open Dialogue

/-- One address asked alone: the requests that reach it and what comes of them. -/
structure Visit (n : Node) (method : String) (params : Json) where
  url : Url
  trips : List Trip
  result : Except TransportError Json
  made : (n.post url method params).Yields trips result

variable {n : Node} {method : String} {params : Json}

def Visit.Fails (v : Visit n method params) : Prop :=
  ∃ e, v.result = .error e

/-- Asking an address that can be asked, where this comes of the request. -/
def Visit.of (n : Node) (method : String) (params : Json) (url : Url)
    (hurl : url.canBeAsked = true) (x : Delayed Exchange) : Visit n method params where
  url := url
  trips := [⟨⟨url, method, params⟩, x⟩]
  result := (Delayed.within n.deadline ⟨x.after, x.value.result url⟩).value
  made := by
    unfold post
    rw [if_pos hurl]
    exact yields_ask.2 ⟨x, [], rfl, .done _⟩

theorem Visit.of_result_eq_ok_iff {url : Url} {hurl : url.canBeAsked = true}
    {x : Delayed Exchange} {result : Json} :
    (Visit.of n method params url hurl x).result = .ok result ↔ n.Answers x result := by
  change (Delayed.within n.deadline ⟨x.after, x.value.result url⟩).value = .ok result ↔ _
  rw [Delayed.value_within_eq_ok_iff, Exchange.result_eq_ok_iff]
  rfl

/-- How asking these addresses in turn ends, with the visits on the way: the last one gives the
result, or it fails like all before it and no address is left. -/
inductive Ends : List Url → List (Visit n method params) → Except TransportError Json → Prop where
  | answered {failed : List (Visit n method params)} {last : Visit n method params} {result : Json}
      (later : List Url) (hfailed : ∀ v ∈ failed, v.Fails) (hlast : last.result = .ok result) :
      Ends (failed.map Visit.url ++ last.url :: later) (failed ++ [last]) (.ok result)
  | exhausted {failed : List (Visit n method params)} {last : Visit n method params}
      {e : TransportError} (hfailed : ∀ v ∈ failed, v.Fails) (hlast : last.result = .error e) :
      Ends (failed.map Visit.url ++ [last.url]) (failed ++ [last])
        (.error (.allEndpointsFailed e.message))

variable {urls : List Url} {visits : List (Visit n method params)}
  {r : Except TransportError Json} {t : List Trip}

theorem Ends.of_ok {v : Visit n method params} {result : Json} (later : List Url)
    (hv : v.result = .ok result) : Ends (v.url :: later) [v] (.ok result) := by
  have hnone : ∀ w ∈ ([] : List (Visit n method params)), w.Fails := by simp
  have hends := Ends.answered later hnone hv
  exact hends

theorem Ends.of_error {v : Visit n method params} {e : TransportError}
    (hv : v.result = .error e) : Ends [v.url] [v] (.error (.allEndpointsFailed e.message)) := by
  have hnone : ∀ w ∈ ([] : List (Visit n method params)), w.Fails := by simp
  have hends := Ends.exhausted hnone hv
  exact hends

theorem Ends.cons {v : Visit n method params} (hv : v.Fails) (h : Ends urls visits r) :
    Ends (v.url :: urls) (v :: visits) r := by
  cases h with
  | answered later hfailed hlast =>
    exact .answered later (List.forall_mem_cons.2 ⟨hv, hfailed⟩) hlast
  | exhausted hfailed hlast => exact .exhausted (List.forall_mem_cons.2 ⟨hv, hfailed⟩) hlast

theorem Ends.urls_ne_nil (h : Ends urls visits r) : urls ≠ [] := by
  cases h <;> simp

/-- The first visit decides the end, or it fails and the end is that of the rest. -/
theorem Ends.first {url : Url} (h : Ends (url :: urls) visits r) :
    ∃ v : Visit n method params, v.url = url ∧
      ((∃ result, v.result = .ok result ∧ visits = [v] ∧ r = .ok result) ∨
        ∃ e, v.result = .error e ∧
          ((urls = [] ∧ visits = [v] ∧ r = .error (.allEndpointsFailed e.message)) ∨
            ∃ rest, visits = v :: rest ∧ Ends urls rest r)) := by
  generalize hall : url :: urls = all at h
  cases h with
  | @answered failed last result later hfailed hlast =>
    cases failed with
    | nil =>
      cases hall
      exact ⟨last, rfl, .inl ⟨result, hlast, rfl, rfl⟩⟩
    | cons v failed =>
      cases hall
      obtain ⟨⟨e, he⟩, hrest⟩ := List.forall_mem_cons.1 hfailed
      exact ⟨v, rfl, .inr ⟨e, he, .inr ⟨_, rfl, .answered later hrest hlast⟩⟩⟩
  | @exhausted failed last e hfailed hlast =>
    cases failed with
    | nil =>
      cases hall
      exact ⟨last, rfl, .inr ⟨e, hlast, .inl ⟨rfl, rfl, rfl⟩⟩⟩
    | cons v failed =>
      cases hall
      obtain ⟨⟨e', he⟩, hrest⟩ := List.forall_mem_cons.1 hfailed
      exact ⟨v, rfl, .inr ⟨e', he, .inr ⟨_, rfl, .exhausted hrest hlast⟩⟩⟩

/-- Asking addresses in turn, of which there is one at least, ends as their visits say. -/
theorem yields_askEach_iff {text : String} (hurls : urls ≠ []) :
    (n.askEach method params text urls).Yields t r ↔
      ∃ visits : List (Visit n method params),
        Ends urls visits r ∧ t = visits.flatMap Visit.trips := by
  induction urls generalizing text t with
  | nil => exact absurd rfl hurls
  | cons url rest ih =>
    rw [askEach, yields_bind]
    constructor
    · intro h
      obtain ⟨u, w, first, rfl, hfirst, hrest⟩ := h
      -- The first address decides, or its error is told only when no address is left.
      let v : Visit n method params := ⟨url, u, first, hfirst⟩
      cases hresult : first with
      | ok result =>
        subst hresult
        obtain ⟨rfl, rfl⟩ := yields_done.1 hrest
        have hv : v.result = .ok result := rfl
        exact ⟨[v], .of_ok rest hv, by simp [v]⟩
      | error e =>
        subst hresult
        cases rest with
        | nil =>
          obtain ⟨rfl, rfl⟩ := yields_done.1 hrest
          have hv : v.result = .error e := rfl
          exact ⟨[v], .of_error hv, by simp [v]⟩
        | cons url' rest =>
          obtain ⟨visits, hends, rfl⟩ := (ih (List.cons_ne_nil _ _)).1 hrest
          have hv : v.Fails := ⟨e, rfl⟩
          exact ⟨v :: visits, hends.cons hv, by simp [v]⟩
    · intro h
      obtain ⟨visits, hends, rfl⟩ := h
      obtain ⟨v, rfl, hdecides | ⟨e, he, hrest⟩⟩ := hends.first
      · obtain ⟨result, hresult, rfl, rfl⟩ := hdecides
        exact ⟨v.trips, [], .ok result, by simp, hresult ▸ v.made, .done _⟩
      · rcases hrest with ⟨rfl, rfl, rfl⟩ | ⟨others, rfl, hothers⟩
        · exact ⟨v.trips, [], .error e, by simp, he ▸ v.made, .done _⟩
        · exact ⟨v.trips, others.flatMap Visit.trips, .error e, by simp, he ▸ v.made,
            (ih hothers.urls_ne_nil).2 ⟨others, hothers, rfl⟩⟩

theorem yields_query_iff :
    (n.query method params).Yields t r ↔
      ∃ visits : List (Visit n method params),
        Ends n.endpoints visits r ∧ t = visits.flatMap Visit.trips :=
  yields_askEach_iff (List.cons_ne_nil _ _)

/-- What is made of the result of a question adds nothing to how it goes. -/
theorem yields_query_andThen_iff {α : Type} {read : Json → Except TransportError α}
    {a : Except TransportError α} :
    ((n.query method params).andThen fun result => .done (read result)).Yields t a ↔
      ∃ (visits : List (Visit n method params)) (r : Except TransportError Json),
        Ends n.endpoints visits r ∧ t = visits.flatMap Visit.trips ∧ a = r.bind read := by
  rw [yields_andThen]
  constructor
  · intro h
    rcases h with ⟨u, w, result, rfl, hquery, hread⟩ | ⟨e, rfl, hquery⟩
    · obtain ⟨rfl, rfl⟩ := yields_done.1 hread
      obtain ⟨visits, hends, rfl⟩ := yields_query_iff.1 hquery
      exact ⟨visits, .ok result, hends, by simp, rfl⟩
    · obtain ⟨visits, hends, rfl⟩ := yields_query_iff.1 hquery
      exact ⟨visits, .error e, hends, rfl, rfl⟩
  · intro h
    obtain ⟨visits, r, hends, rfl, rfl⟩ := h
    cases r with
    | ok result =>
      exact .inl ⟨_, [], result, by simp, yields_query_iff.2 ⟨visits, hends, rfl⟩, .done _⟩
    | error e => exact .inr ⟨e, rfl, yields_query_iff.2 ⟨visits, hends, rfl⟩⟩

theorem yields_outcome_iff {receipt : Receipt} {a : Except TransportError OutcomeStatus} :
    (n.outcome receipt).Yields t a ↔
      ∃ (visits : List (Visit n "info_get_deploy" (.object [("deploy_hash", .string receipt.id)])))
        (r : Except TransportError Json),
        Ends n.endpoints visits r ∧ t = visits.flatMap Visit.trips ∧ a = r.bind outcomeOf :=
  yields_query_andThen_iff

theorem Ends.urls_prefix (h : Ends urls visits r) : visits.map Visit.url <+: urls := by
  cases h with
  | answered later hfailed hlast => simp
  | exhausted hfailed hlast => simp

/-- Each visit is one request at most, to its own address. -/
theorem posts_sublist (visits : List (Visit n method params)) :
    ((visits.flatMap Visit.trips).map Sigma.fst).Sublist
      ((visits.map Visit.url).map fun url => ⟨url, method, params⟩) := by
  induction visits with
  | nil => exact List.Sublist.slnil
  | cons v visits ih =>
    have hfirst : (v.trips.map Sigma.fst).Sublist [⟨v.url, method, params⟩] := by
      rcases trips_of_yields_post v.made with ⟨hnone, -⟩ | ⟨x, hone, -⟩
      · rw [hnone]
        exact List.nil_sublist _
      · rw [hone]
        exact List.Sublist.refl _
    rw [List.flatMap_cons, List.map_append]
    exact hfirst.append ih

/-- Once the addresses up to this one have been visited, the answer is what this one gave. -/
theorem yields_outcome_of_prefix {receipt : Receipt}
    {failed : List (Visit n "info_get_deploy" (.object [("deploy_hash", .string receipt.id)]))}
    {last : Visit n "info_get_deploy" (.object [("deploy_hash", .string receipt.id)])}
    {result : Json} (hfailed : ∀ v ∈ failed, v.Fails) (hlast : last.result = .ok result)
    (hurls : (failed ++ [last]).map Visit.url <+: n.endpoints)
    {a : Except TransportError OutcomeStatus}
    (ht : (failed ++ [last]).flatMap Visit.trips <+: t) :
    (n.outcome receipt).Yields t a ↔
      t = (failed ++ [last]).flatMap Visit.trips ∧ a = outcomeOf result := by
  obtain ⟨later, hlater⟩ := hurls
  have hends : Ends n.endpoints (failed ++ [last]) (.ok result) := by
    have hall := Ends.answered later hfailed hlast
    rw [← hlater]
    simpa using hall
  have hyields := yields_outcome_iff.2 ⟨_, _, hends, rfl, rfl⟩
  constructor
  · intro h
    obtain ⟨w, rfl⟩ := ht
    have hsame := hyields.unique h (List.append_nil _).symm
    exact ⟨hsame.1.symm, hsame.2.symm⟩
  · intro h
    obtain ⟨rfl, rfl⟩ := h
    exact hyields

/-- Questions go to the addresses in their order, to each once at most and to all alike, until one
gives a result; if none does, the error of the last one is told. An outcome is what the result
says, and addresses after the one that gave it have no part in it. -/
theorem query_course (n : Node) :
    (∀ (method : String) (params : Json) (t : List Trip) (r : Except TransportError Json),
      (n.query method params).Yields t r ↔
        ∃ visits : List (Visit n method params),
          Ends n.endpoints visits r ∧ t = visits.flatMap Visit.trips) ∧
    (∀ (method : String) (params : Json) (v : Visit n method params),
      (v.trips = [] ∧ v.Fails) ∨
        ∃ x, v.trips = [⟨⟨v.url, method, params⟩, x⟩] ∧
          ∀ result, v.result = .ok result ↔ n.Answers x result) ∧
    (∀ (method : String) (params : Json) (t : List Trip) (r : Except TransportError Json),
      (n.query method params).Yields t r →
        (t.map Sigma.fst).Sublist (n.endpoints.map fun url => ⟨url, method, params⟩)) ∧
    (∀ (receipt : Receipt) (t : List Trip) (a : Except TransportError OutcomeStatus),
      (n.outcome receipt).Yields t a ↔
        ∃ (visits : List (Visit n "info_get_deploy"
            (.object [("deploy_hash", .string receipt.id)]))) (r : Except TransportError Json),
          Ends n.endpoints visits r ∧ t = visits.flatMap Visit.trips ∧ a = r.bind outcomeOf) ∧
    ∀ (receipt : Receipt)
      (failed : List (Visit n "info_get_deploy" (.object [("deploy_hash", .string receipt.id)])))
      (last : Visit n "info_get_deploy" (.object [("deploy_hash", .string receipt.id)]))
      (result : Json), (∀ v ∈ failed, v.Fails) → last.result = .ok result →
      (failed ++ [last]).map Visit.url <+: n.endpoints →
      ∀ (t : List Trip) (a : Except TransportError OutcomeStatus),
        (failed ++ [last]).flatMap Visit.trips <+: t →
        ((n.outcome receipt).Yields t a ↔
          t = (failed ++ [last]).flatMap Visit.trips ∧ a = outcomeOf result) := by
  refine ⟨fun method params t r => yields_query_iff, fun method params v => ?_,
    fun method params t r h => ?_, fun receipt t a => yields_outcome_iff,
    fun receipt failed last result hfailed hlast hurls t a ht =>
      yields_outcome_of_prefix hfailed hlast hurls ht⟩
  · rcases trips_of_yields_post v.made with hnone | ⟨x, hone, hresult⟩
    · exact .inl hnone
    · exact .inr ⟨x, hone, hresult⟩
  · obtain ⟨visits, hends, rfl⟩ := yields_query_iff.1 h
    exact (posts_sublist visits).trans (hends.urls_prefix.sublist.map _)

def hostRoot (name : String) : Url :=
  ⟨"http", some ⟨[], [], .name name.toList, none⟩, .segments [[]], none, none⟩

def threeHosts : Node where
  primary := hostRoot "a"
  failovers := [hostRoot "b", hostRoot "c"]
  chainName := "casper-test"
  deadline := .ofMilliseconds 30000

def noReply : Delayed Exchange :=
  ⟨0, .failed⟩

def notYetExecuted : Delayed Exchange where
  after := 0
  value :=
    .reply 200 "\x7b\"result\":\x7b\"execution_info\":\x7b\x7d\x7d\x7d".toUTF8.toList

/-- The first host fails, the second one answers, the third one is left alone. -/
theorem query_course_threeHosts :
    let params := Json.object [("deploy_hash", .string "r-1")]
    (threeHosts.outcome ⟨"r-1"⟩).Yields
      [⟨⟨hostRoot "a", "info_get_deploy", params⟩, noReply⟩,
        ⟨⟨hostRoot "b", "info_get_deploy", params⟩, notYetExecuted⟩] (.ok .pending) := by
  intro params
  let a : Visit threeHosts "info_get_deploy" params :=
    .of _ _ _ (hostRoot "a") (by decide +kernel) noReply
  let b : Visit threeHosts "info_get_deploy" params :=
    .of _ _ _ (hostRoot "b") (by decide +kernel) notYetExecuted
  have ha : ∀ v ∈ [a], v.Fails := by
    intro v hv
    obtain rfl := List.mem_singleton.1 hv
    exact ⟨_, rfl⟩
  obtain ⟨result, hanswers, hresult⟩ : ∃ result, threeHosts.Answers notYetExecuted result ∧
      ((result.member? "execution_results").isNone &&
        (result.member? "execution_info").any fun info =>
          (info.member? "execution_result").isNone) = true :=
    exists_answers_of_text (by decide) rfl rfl (by decide +kernel)
  have hb : b.result = .ok result := Visit.of_result_eq_ok_iff.2 hanswers
  have houtcome : outcomeOf result = .ok .pending := by
    rw [Bool.and_eq_true, Option.isNone_iff_eq_none] at hresult
    obtain ⟨info, hinfo, hexec⟩ := (Option.any_eq_true _ _).1 hresult.2
    exact outcomeOf_of_awaits (.unset hresult.1 hinfo (.inl (Option.isNone_iff_eq_none.1 hexec)))
  have hurls : ([a] ++ [b]).map Visit.url <+: threeHosts.endpoints := ⟨[hostRoot "c"], rfl⟩
  have htrips : ([a] ++ [b]).flatMap Visit.trips <+: ([a] ++ [b]).flatMap Visit.trips :=
    List.prefix_rfl
  rw [← houtcome]
  exact ((query_course threeHosts).2.2.2.2 ⟨"r-1"⟩ [a] b result ha hb hurls _ _ htrips).2 ⟨rfl, rfl⟩

end Courier.Node
