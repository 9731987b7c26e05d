import Courier.Proofs.Node.Query

/-!
What the health of a node says of its addresses. The question for the chain stops at the first
address that gives a result, and only then is the name of the chain looked for in it.
-/
namespace Courier.Node

open Dialogue

variable {n : Node} {method : String} {params : Json}

def firstResult? (visits : List (Visit n method params)) : Option Json :=
  visits.findSome? fun v => v.result.toOption

/-- Addresses asked in turn are heard up to the first result. -/
theorem exists_ends {visits : List (Visit n method params)} (hvisits : visits ≠ []) :
    ∃ heard r, heard <+: visits ∧ Ends (visits.map Visit.url) heard r ∧
      r.toOption = firstResult? visits := by
  induction visits with
  | nil => exact absurd rfl hvisits
  | cons v visits ih =>
    cases hv : v.result with
    | ok result =>
      have hfirst : firstResult? (v :: visits) = some result := by
        simp [firstResult?, hv, Except.toOption]
      exact ⟨[v], .ok result, ⟨visits, rfl⟩, .of_ok _ hv, hfirst.symm⟩
    | error e =>
      have hskip : firstResult? (v :: visits) = firstResult? visits := by
        simp [firstResult?, hv, Except.toOption]
      rw [hskip]
      by_cases hrest : visits = []
      · subst hrest
        exact ⟨[v], _, List.prefix_rfl, .of_error hv, rfl⟩
      · obtain ⟨heard, r, hheard, hends, hr⟩ := ih hrest
        exact ⟨v :: heard, r, (List.prefix_cons_inj v).2 hheard, hends.cons ⟨e, hv⟩, hr⟩

/-- What each address of a node says of its state when it is asked alone. -/
structure Survey (n : Node) where
  visits : List (Visit n "info_get_status" (.object []))
  urls_eq : visits.map Visit.url = n.endpoints

namespace Survey

def trips (s : Survey n) : List Trip :=
  s.visits.flatMap Visit.trips

def SomeReports (s : Survey n) : Prop :=
  ∃ v ∈ s.visits, ∃ result name, v.result = .ok result ∧
    result.get "chainspec_name" = .string name

/-- The first result, if there is one, reports a chain. -/
def FirstReports (s : Survey n) : Prop :=
  ∃ result name, firstResult? s.visits = some result ∧ result.get "chainspec_name" = .string name

/-- Where the addresses answer like this, the node counts as healthy if and only if one of them
reports a chain. -/
def HealthTold (s : Survey n) : Prop :=
  ∀ t healthy, n.isHealthy.Yields t healthy → t <+: s.trips → (healthy = true ↔ s.SomeReports)

theorem visits_ne_nil {s : Survey n} : s.visits ≠ [] := by
  intro hnil
  have hurls := s.urls_eq
  rw [hnil] at hurls
  cases hurls

end Survey

theorem yields_isHealthy_iff {t : List Trip} {healthy : Bool} :
    n.isHealthy.Yields t healthy ↔
      ∃ r, (n.query "info_get_status" (.object [])).Yields t r ∧
        healthy = (r.bind (textMember "chainspec_name")).toBool := by
  unfold isHealthy reportedChainName
  rw [yields_bind]
  constructor
  · intro h
    obtain ⟨u, w, name, rfl, hname, hend⟩ := h
    obtain ⟨rfl, rfl⟩ := yields_done.1 hend
    obtain ⟨visits, r, hends, rfl, rfl⟩ := yields_query_andThen_iff.1 hname
    rw [List.append_nil]
    exact ⟨r, yields_query_iff.2 ⟨visits, hends, rfl⟩, rfl⟩
  · intro h
    obtain ⟨r, hquery, rfl⟩ := h
    obtain ⟨visits, hends, rfl⟩ := yields_query_iff.1 hquery
    refine ⟨_, [], r.bind (textMember "chainspec_name"), (List.append_nil _).symm, ?_, .done _⟩
    exact yields_query_andThen_iff.2 ⟨visits, r, hends, rfl, rfl⟩

theorem toBool_bind_textMember {name : String} {r : Except TransportError Json} :
    (r.bind (textMember name)).toBool = true ↔
      ∃ result s, r = .ok result ∧ result.get name = .string s := by
  cases r with
  | error e => simp [Except.bind, Except.toBool]
  | ok result =>
    change (textMember name result).toBool = true ↔ _
    constructor
    · intro h
      cases hmember : textMember name result with
      | error e =>
        rw [hmember] at h
        cases h
      | ok s => exact ⟨result, s, rfl, textMember_eq_ok_iff.1 hmember⟩
    · intro h
      obtain ⟨_, s, hresult, hs⟩ := h
      cases hresult
      rw [textMember_eq_ok_iff.2 hs]
      rfl

namespace Survey

variable {s : Survey n} {t : List Trip} {healthy : Bool}

theorem exists_query (s : Survey n) :
    ∃ t r, (n.query "info_get_status" (.object [])).Yields t r ∧ t <+: s.trips ∧
      r.toOption = firstResult? s.visits := by
  obtain ⟨heard, r, ⟨rest, hrest⟩, hends, hr⟩ := exists_ends s.visits_ne_nil
  rw [s.urls_eq] at hends
  refine ⟨heard.flatMap Visit.trips, r, yields_query_iff.2 ⟨heard, hends, rfl⟩, ?_, hr⟩
  rw [trips, ← hrest, List.flatMap_append]
  exact List.prefix_append _ _

theorem firstReports_iff {r : Except TransportError Json}
    (hr : r.toOption = firstResult? s.visits) :
    s.FirstReports ↔ (r.bind (textMember "chainspec_name")).toBool = true := by
  rw [toBool_bind_textMember]
  unfold FirstReports
  rw [← hr]
  cases r <;> simp [Except.toOption]

/-- Where the addresses answer like this, health is what the first result says. -/
theorem healthy_iff (h : n.isHealthy.Yields t healthy) (ht : t <+: s.trips) :
    healthy = true ↔ s.FirstReports := by
  obtain ⟨r, hquery, rfl⟩ := yields_isHealthy_iff.1 h
  obtain ⟨t', r', hquery', ⟨w', hw'⟩, hr'⟩ := s.exists_query
  obtain ⟨w, hw⟩ := ht
  -- Both logs begin the survey, and no way through the question is the beginning of another.
  obtain ⟨-, rfl⟩ := hquery.unique hquery' (hw.trans hw'.symm)
  exact (firstReports_iff hr').symm

theorem exists_healthy (s : Survey n) :
    ∃ t healthy, n.isHealthy.Yields t healthy ∧ t <+: s.trips := by
  obtain ⟨t, r, hquery, ht, -⟩ := s.exists_query
  exact ⟨t, _, yields_isHealthy_iff.2 ⟨r, hquery, rfl⟩, ht⟩

theorem someReports_of_firstReports (h : s.FirstReports) : s.SomeReports := by
  obtain ⟨result, name, hfirst, hname⟩ := h
  obtain ⟨v, hv, hresult⟩ := List.exists_of_findSome?_eq_some hfirst
  refine ⟨v, hv, result, name, ?_, hname⟩
  cases hvr : v.result <;> simp_all [Except.toOption]

/-- Health tells whether an address reports a chain, unless the first result reports none while a
later address would have. -/
theorem healthTold_iff (s : Survey n) :
    s.HealthTold ↔ (s.SomeReports → s.FirstReports) := by
  constructor
  · intro htold hsome
    obtain ⟨t, healthy, h, ht⟩ := s.exists_healthy
    have hhealthy : healthy = true := (htold t healthy h ht).2 hsome
    exact (healthy_iff h ht).1 hhealthy
  · intro hfirst t healthy h ht
    rw [healthy_iff h ht]
    exact ⟨someReports_of_firstReports, hfirst⟩

end Survey

def twoHosts : Node :=
  { threeHosts with failovers := [hostRoot "b"] }

def namelessStatus : Delayed Exchange :=
  ⟨0, .reply 200 "\x7b\"result\":\x7b\x7d\x7d".toUTF8.toList⟩

def namedStatus : Delayed Exchange where
  after := 0
  value :=
    .reply 200 "\x7b\"result\":\x7b\"chainspec_name\":\"casper-test\"\x7d\x7d".toUTF8.toList

/-- The first host gives a result without a chain, the second one reports its chain. -/
def namelessFirst : Survey twoHosts where
  visits := [.of _ _ _ (hostRoot "a") (by decide +kernel) namelessStatus,
    .of _ _ _ (hostRoot "b") (by decide +kernel) namedStatus]
  urls_eq := rfl

theorem not_healthTold_namelessFirst : ¬ namelessFirst.HealthTold := by
  intro htold
  obtain ⟨nameless, hnameless, hnone⟩ : ∃ result, twoHosts.Answers namelessStatus result ∧
      (result.get "chainspec_name").text?.isNone = true :=
    exists_answers_of_text (by decide) rfl rfl (by decide +kernel)
  obtain ⟨named, hnamed, hname⟩ : ∃ result, twoHosts.Answers namedStatus result ∧
      ((result.get "chainspec_name").text? == some "casper-test") = true :=
    exists_answers_of_text (by decide) rfl rfl (by decide +kernel)
  have hfirst : firstResult? namelessFirst.visits = some nameless := by
    unfold firstResult? namelessFirst
    rw [List.findSome?_cons, Visit.of_result_eq_ok_iff.2 hnameless]
    rfl
  have hstring : named.get "chainspec_name" = .string "casper-test" :=
    Json.text?_eq_some_iff.1 (beq_iff_eq.1 hname)
  have hreports : namelessFirst.SomeReports :=
    ⟨_, List.mem_cons_of_mem _ (List.mem_singleton_self _), named, "casper-test",
      Visit.of_result_eq_ok_iff.2 hnamed, hstring⟩
  obtain ⟨t, healthy, h, ht⟩ := namelessFirst.exists_healthy
  have hhealthy : healthy = true := (htold t healthy h ht).2 hreports
  obtain ⟨result, name, hresult, hname⟩ := (Survey.healthy_iff h ht).1 hhealthy
  obtain rfl : nameless = result := by simpa [hfirst] using hresult
  rw [hname] at hnone
  cases hnone

end Courier.Node
