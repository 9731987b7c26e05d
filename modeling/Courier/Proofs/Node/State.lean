import Courier.Proofs.Argument.HashForms
import Courier.Proofs.Node.Post

/-!
Reading the state of the ledger. The root of the newest state is asked for first. Only an answer
that has one leads to a second question, which names this root, and the value is looked for in the
answer to that one.
-/
namespace Courier

theorem ContractHash.toText_eq (h : ContractHash) : h.toText = "hash-" ++ h.toHex := by
  rw [toText, String.ofList_append]
  rfl

namespace Node

open Dialogue

variable {n : Node} {method : String} {params : Json} {t : List Trip}

/-- A part of the state, by the question for it at a root. -/
structure StateQuestion where
  method : String
  params : String → Json

namespace StateQuestion

def namedKey (contract : ContractHash) (name : String) : StateQuestion where
  method := "query_global_state"
  params root := .object [
    ("state_identifier", .object [("StateRootHash", .string root)]),
    ("key", .string ("hash-" ++ contract.toHex)),
    ("path", .array [.string name])]

def dictionaryItem (contract : ContractHash) (dictionary key : String) : StateQuestion where
  method := "state_get_dictionary_item"
  params root := .object [
    ("state_root_hash", .string root),
    ("dictionary_identifier", .object [
      ("ContractNamedKey", .object [
        ("key", .string ("hash-" ++ contract.toHex)),
        ("dictionary_name", .string dictionary),
        ("dictionary_item_key", .string key)])])]

def read (q : StateQuestion) (n : Node) : Posting (Except TransportError Json) :=
  n.stateRootHash.andThen fun root =>
    (n.query q.method (q.params root)).andThen fun result => .done (storedValueOf result)

/-- How reading a part of the state goes: the question for the root fails, its result has no root,
or the second question follows with the root. -/
inductive Course (q : StateQuestion) (n : Node) :
    List Trip → Except TransportError Json → Prop where
  | failed {t : List Trip} {e : TransportError}
      (hroot : (n.query "chain_get_state_root_hash" (.object [])).Yields t (.error e)) :
      Course q n t (.error e)
  | rootless {t : List Trip} {answer : Json}
      (hroot : (n.query "chain_get_state_root_hash" (.object [])).Yields t (.ok answer))
      (hnone : ∀ root, answer.get "state_root_hash" ≠ .string root) :
      Course q n t (.error (.malformed "missing state_root_hash"))
  | asked {before after : List Trip} {answer : Json} {root : String}
      {found : Except TransportError Json}
      (hroot : (n.query "chain_get_state_root_hash" (.object [])).Yields before (.ok answer))
      (hget : answer.get "state_root_hash" = .string root)
      (hfound : (n.query q.method (q.params root)).Yields after found) :
      Course q n (before ++ after) (found.bind storedValueOf)

end StateQuestion

theorem namedKeyValue_eq_read (contract : ContractHash) (name : String) :
    n.namedKeyValue contract name = (StateQuestion.namedKey contract name).read n := by
  unfold namedKeyValue
  rw [ContractHash.toText_eq]
  rfl

theorem dictionaryItem_eq_read (contract : ContractHash) (dictionary key : String) :
    n.dictionaryItem contract dictionary key =
      (StateQuestion.dictionaryItem contract dictionary key).read n := by
  unfold dictionaryItem
  rw [ContractHash.toText_eq]
  rfl

theorem yields_query_read_iff {α : Type} {read : Json → Except TransportError α}
    {a : Except TransportError α} :
    ((n.query method params).andThen fun result => .done (read result)).Yields t a ↔
      ∃ r, (n.query method params).Yields t r ∧ a = r.bind read := by
  rw [yields_query_andThen_iff]
  constructor
  · intro h
    obtain ⟨visits, r, hends, ht, ha⟩ := h
    exact ⟨r, yields_query_iff.2 ⟨visits, hends, ht⟩, ha⟩
  · intro h
    obtain ⟨r, hr, ha⟩ := h
    obtain ⟨visits, hends, ht⟩ := yields_query_iff.1 hr
    exact ⟨visits, r, hends, ht, ha⟩

theorem yields_stateRootHash_ok_iff {root : String} :
    n.stateRootHash.Yields t (.ok root) ↔
      ∃ answer, (n.query "chain_get_state_root_hash" (.object [])).Yields t (.ok answer) ∧
        answer.get "state_root_hash" = .string root := by
  unfold stateRootHash
  rw [yields_query_read_iff]
  constructor
  · intro h
    obtain ⟨r, hr, hroot⟩ := h
    cases r with
    | error e => cases hroot
    | ok answer => exact ⟨answer, hr, textMember_eq_ok_iff.1 hroot.symm⟩
  · intro h
    obtain ⟨answer, hanswer, hget⟩ := h
    exact ⟨.ok answer, hanswer, (textMember_eq_ok_iff.2 hget).symm⟩

theorem yields_stateRootHash_error_iff {e : TransportError} :
    n.stateRootHash.Yields t (.error e) ↔
      (n.query "chain_get_state_root_hash" (.object [])).Yields t (.error e) ∨
        ∃ answer, (n.query "chain_get_state_root_hash" (.object [])).Yields t (.ok answer) ∧
          (∀ root, answer.get "state_root_hash" ≠ .string root) ∧
          e = .malformed "missing state_root_hash" := by
  unfold stateRootHash
  rw [yields_query_read_iff]
  constructor
  · intro h
    obtain ⟨r, hr, herror⟩ := h
    cases r with
    | error e' =>
      cases herror
      exact .inl hr
    | ok answer => exact .inr ⟨answer, hr, textMember_eq_error_iff.1 herror.symm⟩
  · intro h
    rcases h with hfailed | ⟨answer, hanswer, hnone⟩
    · exact ⟨_, hfailed, rfl⟩
    · exact ⟨_, hanswer, (textMember_eq_error_iff.2 hnone).symm⟩

theorem StateQuestion.yields_read_iff {q : StateQuestion} {r : Except TransportError Json} :
    (q.read n).Yields t r ↔ q.Course n t r := by
  unfold StateQuestion.read
  rw [yields_andThen]
  constructor
  · intro h
    rcases h with ⟨before, after, root, rfl, hroot, hread⟩ | ⟨e, rfl, hroot⟩
    · obtain ⟨answer, hanswer, hget⟩ := yields_stateRootHash_ok_iff.1 hroot
      obtain ⟨found, hfound, rfl⟩ := yields_query_read_iff.1 hread
      exact .asked hanswer hget hfound
    · rcases yields_stateRootHash_error_iff.1 hroot with hfailed | ⟨answer, hanswer, hnone, rfl⟩
      · exact .failed hfailed
      · exact .rootless hanswer hnone
  · intro h
    cases h with
    | failed hroot => exact .inr ⟨_, rfl, yields_stateRootHash_error_iff.2 (.inl hroot)⟩
    | rootless hroot hnone =>
      exact .inr ⟨_, rfl, yields_stateRootHash_error_iff.2 (.inr ⟨_, hroot, hnone, rfl⟩)⟩
    | asked hroot hget hfound =>
      exact .inl ⟨_, _, _, rfl, yields_stateRootHash_ok_iff.2 ⟨_, hroot, hget⟩,
        yields_query_read_iff.2 ⟨_, hfound, rfl⟩⟩

def TellsRoot (n : Node) (x : Trip) (root : String) : Prop :=
  x.1.method = "chain_get_state_root_hash" ∧
    ∃ answer, n.Answers x.2 answer ∧ answer.get "state_root_hash" = .string root

/-- All requests of a question are put in the same way, and a result is one of the answers. -/
theorem trips_of_yields_query {r : Except TransportError Json}
    (h : (n.query method params).Yields t r) :
    (∀ x ∈ t, x.1.method = method ∧ x.1.params = params) ∧
      ∀ v, r = .ok v → ∃ x ∈ t, n.Answers x.2 v := by
  obtain ⟨hall, hok⟩ := trips_of_yields_askEach h
  exact ⟨fun x hx => ⟨(hall x hx).1, (hall x hx).2.1⟩, hok⟩

namespace StateQuestion

variable {q : StateQuestion} {r : Except TransportError Json}

/-- Every request is for the root, or it names a root that was told before. -/
theorem Course.requests (h : q.Course n t r) {front back : List Trip} {x : Trip}
    (ht : t = front ++ x :: back) :
    (x.1.method = "chain_get_state_root_hash" ∧ x.1.params = .object []) ∨
      (x.1.method = q.method ∧
        ∃ root, x.1.params = q.params root ∧ ∃ y ∈ front, n.TellsRoot y root) := by
  have hx : x ∈ t := ht ▸ List.mem_append_right _ List.mem_cons_self
  cases h with
  | failed hroot => exact .inl ((trips_of_yields_query hroot).1 x hx)
  | rootless hroot hnone => exact .inl ((trips_of_yields_query hroot).1 x hx)
  | @asked before after answer root found hroot hget hfound =>
    obtain ⟨hrootAll, hrootOk⟩ := trips_of_yields_query hroot
    obtain ⟨y, hy, hanswers⟩ := hrootOk answer rfl
    have htells : n.TellsRoot y root := ⟨(hrootAll y hy).1, answer, hanswers, hget⟩
    by_cases hbefore : before.length ≤ front.length
    · -- The request comes after the exchanges on the root, so it belongs to the second question.
      have hfront : before <+: front :=
        List.prefix_of_prefix_length_le ⟨after, rfl⟩ ⟨x :: back, ht.symm⟩ hbefore
      obtain ⟨rest, rfl⟩ := hfront
      rw [List.append_assoc, List.append_cancel_left_eq] at ht
      have hxafter : x ∈ after := ht ▸ List.mem_append_right _ List.mem_cons_self
      obtain ⟨hmethod, hparams⟩ := (trips_of_yields_query hfound).1 x hxafter
      exact .inr ⟨hmethod, root, hparams, y, List.mem_append_left _ hy, htells⟩
    · have hfront : front ++ [x] <+: before := by
        refine List.prefix_of_prefix_length_le ⟨back, ?_⟩ ⟨after, rfl⟩ ?_
        · rw [List.append_assoc, List.singleton_append, ht]
        · rw [List.length_append, List.length_singleton]
          omega
      have hxbefore : x ∈ before := hfront.subset (List.mem_append_right _ (List.mem_singleton_self x))
      exact .inl (hrootAll x hxbefore)

end StateQuestion

/-- The value that an answer stores: the readable form of a typed value, or the whole. -/
inductive Stores : Json → Json → Prop where
  | typed {v stored typed w : Json} (hstored : v.member? "stored_value" = some stored)
      (htyped : stored.member? "CLValue" = some typed)
      (hparsed : typed.member? "parsed" = some w) : Stores v w
  | whole {v stored : Json} (hstored : v.member? "stored_value" = some stored)
      (huntyped : stored.member? "CLValue" = none) : Stores v stored

theorem storedValueOf_eq_ok_iff {v w : Json} : storedValueOf v = .ok w ↔ Stores v w := by
  unfold storedValueOf
  constructor
  · intro h
    split at h
    · cases h
    · next stored hstored =>
      split at h
      · next huntyped =>
        cases h
        exact .whole hstored huntyped
      · next typed htyped =>
        cases hparsed : typed.member? "parsed" with
        | none =>
          rw [hparsed] at h
          cases h
        | some u =>
          rw [hparsed] at h
          cases h
          exact .typed hstored htyped hparsed
  · intro h
    cases h with
    | typed hstored htyped hparsed => simp [hstored, htyped, hparsed]
    | whole hstored huntyped => simp [hstored, huntyped]

theorem storedValueOf_eq_error_iff {v : Json} {e : TransportError} :
    storedValueOf v = .error e ↔
      (v.member? "stored_value" = none ∧ e = .malformed "missing stored_value") ∨
        ∃ stored typed, v.member? "stored_value" = some stored ∧
          stored.member? "CLValue" = some typed ∧ typed.member? "parsed" = none ∧
          e = .malformed "CLValue without parsed form" := by
  unfold storedValueOf
  constructor
  · intro h
    split at h
    · next hmissing =>
      cases h
      exact .inl ⟨hmissing, rfl⟩
    · next stored hstored =>
      split at h
      · cases h
      · next typed htyped =>
        cases hparsed : typed.member? "parsed" with
        | none =>
          rw [hparsed] at h
          cases h
          exact .inr ⟨stored, typed, hstored, htyped, hparsed, rfl⟩
        | some u =>
          rw [hparsed] at h
          cases h
  · intro h
    rcases h with ⟨hmissing, rfl⟩ | ⟨stored, typed, hstored, htyped, hparsed, rfl⟩
    · simp [hmissing]
    · simp [hstored, htyped, hparsed]

/-- Reading a part of the state goes through its root. Every request is for the root or comes after
an exchange that told one, and then it names this root, the contract in its canonical form, and the
name or the keys as they are given; where no root is told, there are requests for the root only.
Once the second question has its result, the value is what this result stores, and it is an error
exactly when the result stores nothing, or a typed value without its readable form. -/
theorem state_read_at_root (n : Node) (contract : ContractHash) :
    (∀ name, n.namedKeyValue contract name = (StateQuestion.namedKey contract name).read n) ∧
    (∀ dictionary key, n.dictionaryItem contract dictionary key =
      (StateQuestion.dictionaryItem contract dictionary key).read n) ∧
    ∀ q : StateQuestion,
      (∀ t r, (q.read n).Yields t r ↔ q.Course n t r) ∧
      (∀ t r, (q.read n).Yields t r → ∀ front x back, t = front ++ x :: back →
        (x.1.method = "chain_get_state_root_hash" ∧ x.1.params = .object []) ∨
          (x.1.method = q.method ∧
            ∃ root, x.1.params = q.params root ∧ ∃ y ∈ front, n.TellsRoot y root)) ∧
      (∀ t r, (q.read n).Yields t r → (∀ x ∈ t, ∀ root, ¬ n.TellsRoot x root) →
        ∀ x ∈ t, x.1.method = "chain_get_state_root_hash" ∧ x.1.params = .object []) ∧
      ∀ (before after : List Trip) (answer : Json) (root : String) (result : Json),
        (n.query "chain_get_state_root_hash" (.object [])).Yields before (.ok answer) →
        answer.get "state_root_hash" = .string root →
        (n.query q.method (q.params root)).Yields after (.ok result) →
        (∀ v, (q.read n).Yields (before ++ after) (.ok v) ↔ Stores result v) ∧
        ∀ e, (q.read n).Yields (before ++ after) (.error e) ↔
          (result.member? "stored_value" = none ∧ e = .malformed "missing stored_value") ∨
            ∃ stored typed, result.member? "stored_value" = some stored ∧
              stored.member? "CLValue" = some typed ∧ typed.member? "parsed" = none ∧
              e = .malformed "CLValue without parsed form" := by
  refine ⟨fun name => namedKeyValue_eq_read contract name,
    fun dictionary key => dictionaryItem_eq_read contract dictionary key,
    fun q => ⟨fun t r => StateQuestion.yields_read_iff,
      fun t r h front x back ht => (StateQuestion.yields_read_iff.1 h).requests ht,
      fun t r h hnone x hx => ?_, fun before after answer root result hroot hget hfound => ?_⟩⟩
  · obtain ⟨front, back, ht⟩ := List.append_of_mem hx
    rcases (StateQuestion.yields_read_iff.1 h).requests ht with hasked | ⟨-, root, -, y, hy, htells⟩
    · exact hasked
    · exact absurd htells (hnone y (ht ▸ List.mem_append_left _ hy) root)
  · have hread : (q.read n).Yields (before ++ after) (storedValueOf result) :=
      StateQuestion.yields_read_iff.2 (.asked hroot hget hfound)
    have hvalue : ∀ r, (q.read n).Yields (before ++ after) r ↔ storedValueOf result = r := by
      intro r
      exact ⟨hread.value_unique, fun h => h ▸ hread⟩
    constructor
    · intro v
      rw [hvalue, storedValueOf_eq_ok_iff]
    · intro e
      rw [hvalue, storedValueOf_eq_error_iff]

def rootText : String :=
  "\x7b\"result\":\x7b\"state_root_hash\":\"r-0\"\x7d\x7d"

def nullStoredText : String :=
  "\x7b\"result\":\x7b\"stored_value\":\x7b\"CLValue\":\x7b\"parsed\":null\x7d\x7d\x7d\x7d"

/-- The first host tells no root, and the second one does; the value that the first host then tells
is a typed `null`. -/
theorem state_read_at_root_nullStored :
    let params := Json.object [
      ("state_identifier", .object [("StateRootHash", .string "r-0")]),
      ("key", .string ("hash-" ++ ContractHash.toHex ⟨zeroDigest⟩)),
      ("path", .array [.string "decimals"])]
    (threeHosts.namedKeyValue ⟨zeroDigest⟩ "decimals").Yields
      [⟨⟨hostRoot "a", "chain_get_state_root_hash", .object []⟩, noReply⟩,
        ⟨⟨hostRoot "b", "chain_get_state_root_hash", .object []⟩, servedAfter 5 rootText⟩,
        ⟨⟨hostRoot "a", "query_global_state", params⟩, servedAfter 5 nullStoredText⟩]
      (.ok .null) := by
  intro params
  let a : Visit threeHosts "chain_get_state_root_hash" (.object []) :=
    .of _ _ _ (hostRoot "a") (by decide +kernel) noReply
  let b : Visit threeHosts "chain_get_state_root_hash" (.object []) :=
    .of _ _ _ (hostRoot "b") (by decide +kernel) (servedAfter 5 rootText)
  let c : Visit threeHosts "query_global_state" params :=
    .of _ _ _ (hostRoot "a") (by decide +kernel) (servedAfter 5 nullStoredText)
  have ha : a.Fails := ⟨_, rfl⟩
  obtain ⟨answer, hanswer, hroot⟩ : ∃ result, threeHosts.Answers (servedAfter 5 rootText) result ∧
      ((result.get "state_root_hash").text? == some "r-0") = true :=
    exists_answers_of_text (by decide) rfl rfl (by decide +kernel)
  have hget : answer.get "state_root_hash" = .string "r-0" :=
    Json.text?_eq_some_iff.1 (beq_iff_eq.1 hroot)
  obtain ⟨result, hresult, hchecked⟩ : ∃ result,
      threeHosts.Answers (servedAfter 5 nullStoredText) result ∧
        ((result.member? "stored_value").any fun stored =>
          (stored.member? "CLValue").any fun typed =>
            (typed.member? "parsed").any Json.isNull) = true :=
    exists_answers_of_text (by decide) rfl rfl (by decide +kernel)
  have hstores : Stores result .null := by
    obtain ⟨stored, hstored, hchecked⟩ := (Option.any_eq_true _ _).1 hchecked
    obtain ⟨typed, htyped, hchecked⟩ := (Option.any_eq_true _ _).1 hchecked
    obtain ⟨v, hparsed, hnull⟩ := (Option.any_eq_true _ _).1 hchecked
    rw [Json.isNull_iff.1 hnull] at hparsed
    exact .typed hstored htyped hparsed
  have hb : b.result = .ok answer := Visit.of_result_eq_ok_iff.2 hanswer
  have hc : c.result = .ok result := Visit.of_result_eq_ok_iff.2 hresult
  have hasked := yields_query_iff.2 ⟨[a, b], (Ends.of_ok [hostRoot "c"] hb).cons ha, rfl⟩
  have hfound := yields_query_iff.2 ⟨[c], Ends.of_ok [hostRoot "b", hostRoot "c"] hc, rfl⟩
  obtain ⟨hnamed, -, hread⟩ := state_read_at_root threeHosts ⟨zeroDigest⟩
  obtain ⟨-, -, -, hvalue⟩ := hread (.namedKey ⟨zeroDigest⟩ "decimals")
  rw [hnamed]
  exact ((hvalue _ _ _ "r-0" _ hasked hget hfound).1 .null).2 hstores

end Node
end Courier
