import Courier.Proofs.Client.Trips
import Courier.Proofs.Relay.Call
import Courier.Proofs.Relay.Confirm

/-!
What the addresses of a node see of an execution: submissions that were not accepted, all to the
primary address, and once one is accepted nothing but queries for the deploy that it named.
-/
namespace Courier.Client

open Dialogue Node Relay

variable {n : Node} {request : Request} {t : Log}

/-- A submission to the primary address that was not accepted there. -/
def Rejected (n : Node) (request : Request) (x : Trip) : Prop :=
  x.1 = n.submission request ∧ ∀ id, ¬ n.Accepts x.2 id

/-- An attempt reaches the primary address once, or not at all if it failed before. -/
theorem trips_of_refines_attempt {reply : Except TransportError Receipt} {l : Relay.Log}
    (hl : ∀ e ∈ l, isLocal e.1 = true)
    (h : Refines (through n) (⟨.submit request, reply⟩ :: l) t) :
    (∀ e, reply = .error e → (trips t).length ≤ 1 ∧ ∀ x ∈ trips t, Rejected n request x) ∧
      ∀ receipt, reply = .ok receipt →
        ∃ x, trips t = [⟨n.submission request, x⟩] ∧ n.Accepts x receipt.id := by
  obtain ⟨u, hu, htrips⟩ := trips_of_refines_cons_local hl h
  rw [htrips]
  have hsubmit : (n.submit request).Yields (trips u) reply := yields_trips_of_posting hu
  rcases trips_of_yields_submit hsubmit with ⟨hnil, e, rfl⟩ | ⟨x, hx, hok⟩
  · rw [hnil]
    simp
  · rw [hx]
    constructor
    · rintro e rfl
      refine ⟨Nat.le_refl 1, fun y hy => ?_⟩
      obtain rfl := List.mem_singleton.1 hy
      refine ⟨rfl, fun id hid => ?_⟩
      cases (hok id).2 hid
    · rintro ⟨id⟩ rfl
      exact ⟨x, rfl, (hok id).1 rfl⟩

/-- Failed attempts are at most as many requests, none of them accepted. -/
theorem trips_of_refines_retries {policy : SubmitPolicy} {retries : List Retry}
    (h : Refines (through n) (retries.flatMap (Retry.log request policy)) t) :
    (trips t).length ≤ retries.length ∧ ∀ x ∈ trips t, Rejected n request x := by
  induction retries generalizing t with
  | nil =>
    cases h
    simp
  | cons retry retries ih =>
    rw [List.flatMap_cons] at h
    obtain ⟨u, v, rfl, hu, hv⟩ := refines_append.1 h
    have hlocal : ∀ e ∈ (retry.log request policy).tail, isLocal e.1 = true := by
      simp [Retry.log, rejectedLog, elapsedLog, isLocal]
    obtain ⟨hlen, hall⟩ := (trips_of_refines_attempt hlocal hu).1 retry.error rfl
    obtain ⟨hlens, halls⟩ := ih hv
    rw [trips_append, List.length_append, List.length_cons]
    constructor
    · omega
    · exact List.forall_mem_append.2 ⟨hall, halls⟩

theorem lastAttempt_log_eq (policy : SubmitPolicy) (last : LastAttempt) :
    ∃ l, last.log request policy = ⟨.submit request, last.reply⟩ :: l ∧
      ∀ e ∈ l, isLocal e.1 = true := by
  cases last with
  | accepted receipt => exact ⟨_, rfl, by simp [isLocal]⟩
  | exhausted error => exact ⟨_, rfl, by simp [isLocal]⟩
  | cancelled error word cut =>
    refine ⟨_, rfl, ?_⟩
    cases cut <;> simp [Cut.log, isLocal]

/-- A submission is at most as many requests as attempts are allowed. It succeeds exactly when the
last of them is accepted, and none before it is. -/
theorem trips_of_refines_call {policy : SubmitPolicy} {l : Relay.Log}
    {r : Except DeliveryError Receipt} (hr : (call request policy).Yields l r)
    (h : Refines (through n) l t) :
    ∃ rejected : List Trip, (∀ x ∈ rejected, Rejected n request x) ∧
      ((∃ e, r = .error e) ∧ trips t = rejected ∧
          rejected.length ≤ max 1 policy.maxAttempts.toNat ∨
        ∃ receipt x, r = .ok receipt ∧ trips t = rejected ++ [⟨n.submission request, x⟩] ∧
          rejected.length < max 1 policy.maxAttempts.toNat ∧ n.Accepts x receipt.id) := by
  obtain ⟨retries, last, number, rfl, rfl, hnum, hfits⟩ := course_of_yields_call hr
  have hle := hfits.le
  obtain ⟨u, v, rfl, hu, hv⟩ := refines_append.1 h
  obtain ⟨hlen, hall⟩ := trips_of_refines_retries hu
  obtain ⟨rest, hlog, hrest⟩ := lastAttempt_log_eq policy last
  rw [hlog] at hv
  obtain ⟨hfail, hok⟩ := trips_of_refines_attempt hrest hv
  rw [trips_append]
  cases hreply : last.reply with
  | ok receipt =>
    obtain ⟨x, hx, haccepts⟩ := hok receipt hreply
    refine ⟨trips u, hall, .inr ⟨receipt, x, ?_, by rw [hx], by omega, haccepts⟩⟩
    exact LastAttempt.result_eq_ok_iff.2 hreply
  | error e =>
    obtain ⟨hlast, hlasts⟩ := hfail e hreply
    refine ⟨trips u ++ trips v, List.forall_mem_append.2 ⟨hall, hlasts⟩, .inl ⟨?_, rfl, ?_⟩⟩
    · cases hresult : last.result number with
      | ok receipt =>
        rw [LastAttempt.result_eq_ok_iff.1 hresult] at hreply
        cases hreply
      | error e' => exact ⟨e', rfl⟩
    · rw [List.length_append]
      omega

/-- A query of the relay is nothing but requests for the outcome of the deploy. -/
theorem trips_of_refines_query {receipt : Receipt}
    {reply : Except TransportError OutcomeStatus} {l : Relay.Log}
    (hl : ∀ e ∈ l, isLocal e.1 = true)
    (h : Refines (through n) (⟨.outcome receipt, reply⟩ :: l) t) :
    (∀ x ∈ trips t, n.Inquires x.1 receipt.id) ∧
      ∀ status, reply = .ok status → ∃ x ∈ trips t, n.Reports x.2 status := by
  obtain ⟨u, hu, htrips⟩ := trips_of_refines_cons_local hl h
  rw [htrips]
  exact trips_of_yields_outcome (yields_trips_of_posting hu)

theorem trips_of_refines_idle {receipt : Receipt} {policy : PollPolicy}
    {idle : List (Except TransportError OutcomeStatus)}
    (h : Refines (through n) (idle.flatMap (idleLog receipt policy)) t) :
    ∀ x ∈ trips t, n.Inquires x.1 receipt.id := by
  induction idle generalizing t with
  | nil =>
    cases h
    simp
  | cons reply idle ih =>
    rw [List.flatMap_cons] at h
    obtain ⟨u, v, rfl, hu, hv⟩ := refines_append.1 h
    have hlocal : ∀ e ∈ (idleLog receipt policy reply).tail, isLocal e.1 = true := by
      simp [idleLog, queryLog, elapsedLog, isLocal]
    rw [trips_append, List.forall_mem_append]
    exact ⟨(trips_of_refines_query hlocal hu).1, ih hv⟩

theorem lastQuery_log_eq (receipt : Receipt) (policy : PollPolicy) (last : LastQuery) :
    ∃ l, last.log receipt policy = ⟨.outcome receipt, last.reply⟩ :: l ∧
      ∀ e ∈ l, isLocal e.1 = true := by
  cases last with
  | settled verdict => exact ⟨_, rfl, by simp [isLocal]⟩
  | spent reply => exact ⟨_, rfl, by simp [isLocal]⟩
  | cancelled reply cut =>
    refine ⟨_, rfl, ?_⟩
    cases cut <;> simp [Cut.log, isLocal]

/-- A confirmation is nothing but requests for the outcome of the deploy, and a payload is one that
an address told. -/
theorem trips_of_refines_confirm {receipt : Receipt} {policy : PollPolicy} {l : Relay.Log}
    {r : Except DeliveryError Json} (hr : (confirm receipt policy).Yields l r)
    (h : Refines (through n) l t) :
    (∀ x ∈ trips t, n.Inquires x.1 receipt.id) ∧
      ∀ payload, r = .ok payload →
        ∃ x ∈ trips t, n.Reports x.2 (.executed (.success payload)) := by
  obtain ⟨idle, last, number, -, rfl, rfl, -, hfits⟩ := course_of_yields_confirm hr
  obtain ⟨u, v, rfl, hu, hv⟩ := refines_append.1 h
  obtain ⟨rest, hlog, hrest⟩ := lastQuery_log_eq receipt policy last
  rw [hlog] at hv
  obtain ⟨hall, hok⟩ := trips_of_refines_query hrest hv
  rw [trips_append]
  constructor
  · rw [List.forall_mem_append]
    exact ⟨trips_of_refines_idle hu, hall⟩
  · intro payload hpayload
    have hreply : last.reply = .ok (.executed (.success payload)) :=
      (LastQuery.result_eq_verdictResult_iff hfits).1 hpayload
    obtain ⟨x, hx, hreports⟩ := hok _ hreply
    exact ⟨x, List.mem_append_right _ hx, hreports⟩

/-- What the addresses see of an execution that ends with a result, when `ceiling` attempts are
allowed: either no submission is accepted, or the last one is and only queries follow. -/
inductive Delivery (n : Node) (request : Request) (ceiling : Nat) :
    List Trip → Except DeliveryError Execution → Prop where
  | refused {rejected : List Trip} {e : DeliveryError}
      (hrejected : ∀ x ∈ rejected, Rejected n request x) (hlen : rejected.length ≤ ceiling) :
      Delivery n request ceiling rejected (.error e)
  | accepted {rejected queries : List Trip} {x : Delayed Exchange} {id : String}
      {r : Except DeliveryError Execution}
      (hrejected : ∀ x ∈ rejected, Rejected n request x) (hlen : rejected.length < ceiling)
      (haccepts : n.Accepts x id) (hqueries : ∀ y ∈ queries, n.Inquires y.1 id)
      (hok : ∀ e, r = .ok e → e.receipt = ⟨id⟩ ∧
        ∃ y ∈ queries, n.Reports y.2 (.executed (.success e.payload))) :
      Delivery n request ceiling (rejected ++ ⟨n.submission request, x⟩ :: queries) r

theorem delivery_of_yields_execute {policies : RelayPolicies} {r : Except DeliveryError Execution}
    (h : (relaying n (execute request policies)).Yields t r) :
    Delivery n request (max 1 policies.submit.maxAttempts.toNat) (trips t) r := by
  obtain ⟨l, hl, hrefines⟩ := yields_substitute.1 h
  rcases yields_andThen.1 hl with ⟨a, b, receipt, rfl, ha, hb⟩ | ⟨e, rfl, he⟩
  · obtain ⟨u, v, rfl, hu, hv⟩ := refines_append.1 hrefines
    rw [trips_append]
    obtain ⟨rejected, hrejected, ⟨⟨e, he⟩, -⟩ | ⟨receipt', x, hreceipt, hsent, hlen, haccepts⟩⟩ :=
      trips_of_refines_call ha hu
    · cases he
    obtain rfl : receipt = receipt' := by simpa using hreceipt
    rw [hsent, List.append_assoc, List.singleton_append]
    rcases yields_andThen.1 hb with ⟨c, d, payload, rfl, hc, hd⟩ | ⟨e, rfl, he⟩
    · obtain ⟨rfl, rfl⟩ := yields_done.1 hd
      rw [List.append_nil] at hv
      obtain ⟨hqueries, hok⟩ := trips_of_refines_confirm hc hv
      refine .accepted hrejected hlen haccepts hqueries fun e he => ?_
      obtain rfl : ⟨receipt, payload⟩ = e := by simpa using he
      exact ⟨rfl, hok payload rfl⟩
    · obtain ⟨hqueries, -⟩ := trips_of_refines_confirm he hv
      refine .accepted hrejected hlen haccepts hqueries fun e' he' => ?_
      cases he'
  · obtain ⟨rejected, hrejected, ⟨-, hsent, hlen⟩ | ⟨receipt, x, hreceipt, -⟩⟩ :=
      trips_of_refines_call he hrefines
    · rw [hsent]
      exact .refused hrejected hlen
    · cases hreceipt

theorem Rejected.method {x : Trip} (h : Rejected n request x) :
    x.1.method = "account_put_deploy" := by
  rw [h.1]
  rfl

namespace Delivery

variable {ceiling : Nat} {sent : List Trip} {r : Except DeliveryError Execution}

theorem submission_or_inquiry (h : Delivery n request ceiling sent r) :
    ∀ x ∈ sent, x.1 = n.submission request ∨ ∃ id, n.Inquires x.1 id := by
  intro y hy
  cases h with
  | refused hrejected _ => exact .inl (hrejected y hy).1
  | accepted hrejected _ _ hqueries _ =>
    rcases List.mem_append.1 hy with hy | hy
    · exact .inl (hrejected y hy).1
    · rcases List.mem_cons.1 hy with rfl | hy
      · exact .inl rfl
      · exact .inr ⟨_, hqueries y hy⟩

theorem countP_le (h : Delivery n request ceiling sent r) :
    (sent.countP fun x => x.1.method == "account_put_deploy") ≤ ceiling := by
  cases h with
  | refused _ hlen => exact Nat.le_trans List.countP_le_length hlen
  | @accepted rejected queries x id r hrejected hlen _ hqueries _ =>
    have hnone : (queries.countP fun x => x.1.method == "account_put_deploy") = 0 := by
      rw [List.countP_eq_zero]
      intro y hy
      rw [(hqueries y hy).1]
      decide
    have hle : (rejected.countP fun x => x.1.method == "account_put_deploy") ≤ rejected.length :=
      List.countP_le_length
    rw [List.countP_append, List.countP_cons, hnone]
    split <;> omega

/-- After an accepted submission there are only queries for the deploy that it named. -/
theorem pairwise (h : Delivery n request ceiling sent r) :
    sent.Pairwise fun x y => ∀ id, x.1.method = "account_put_deploy" → n.Accepts x.2 id →
      n.Inquires y.1 id := by
  cases h with
  | refused hrejected _ =>
    refine List.pairwise_of_forall_mem_list fun x hx y _ id _ hid => ?_
    exact absurd hid ((hrejected x hx).2 id)
  | @accepted rejected queries x id r hrejected _ haccepts hqueries _ =>
    rw [List.pairwise_append, List.pairwise_cons]
    refine ⟨?_, ⟨?_, ?_⟩, ?_⟩
    · refine List.pairwise_of_forall_mem_list fun y hy z _ id' _ hid => ?_
      exact absurd hid ((hrejected y hy).2 id')
    · intro y hy id' _ hid
      rw [Accepts.unique hid haccepts]
      exact hqueries y hy
    · refine List.pairwise_of_forall_mem_list fun y hy z _ id' hput _ => ?_
      rw [(hqueries y hy).1] at hput
      exact absurd hput (by decide)
    · intro y hy z _ id' _ hid
      exact absurd hid ((hrejected y hy).2 id')

/-- Before a query a submission was accepted, and the query is for the deploy that it named. -/
theorem accepted_of_inquiry (h : Delivery n request ceiling sent r) {before after : List Trip}
    {y : Trip} (hsent : sent = before ++ y :: after) (hy : y.1.method = "info_get_deploy") :
    ∃ x ∈ before, ∃ id, x.1 = n.submission request ∧ n.Accepts x.2 id ∧ n.Inquires y.1 id := by
  have hne : y.1.method ≠ "account_put_deploy" := by
    rw [hy]
    decide
  cases h with
  | refused hrejected _ =>
    have hmem : y ∈ before ++ y :: after := by simp
    exact absurd (hrejected y (hsent ▸ hmem)).method hne
  | @accepted rejected queries x id r hrejected _ haccepts hqueries _ =>
    -- The query stands behind the accepted submission, since all before it are submissions.
    rcases List.append_eq_append_iff.1 hsent with ⟨c, rfl, hc⟩ | ⟨c, rfl, hc⟩
    · rcases List.cons_eq_append_iff.1 hc with ⟨rfl, hcons⟩ | ⟨c', rfl, rfl⟩
      · obtain ⟨rfl, -⟩ := List.cons.inj hcons
        exact absurd rfl hne
      · exact ⟨⟨n.submission request, x⟩, by simp, id, rfl, haccepts, hqueries y (by simp)⟩
    · rcases List.cons_eq_append_iff.1 hc with ⟨rfl, hcons⟩ | ⟨c', rfl, rfl⟩
      · obtain ⟨rfl, -⟩ := List.cons.inj hcons
        exact absurd rfl hne
      · exact absurd (hrejected y (by simp)).method hne

/-- A success tells of the accepted submission and of a query after it that told the payload. -/
theorem of_ok {e : Execution} (h : Delivery n request ceiling sent (.ok e)) :
    ∃ before x after, sent = before ++ x :: after ∧ x.1 = n.submission request ∧
      n.Accepts x.2 e.receipt.id ∧ ∃ y ∈ after, n.Inquires y.1 e.receipt.id ∧
        n.Reports y.2 (.executed (.success e.payload)) := by
  cases h with
  | @accepted rejected queries x id r _ _ haccepts hqueries hok =>
    obtain ⟨hreceipt, y, hy, hreports⟩ := hok e rfl
    rw [hreceipt]
    exact ⟨rejected, _, queries, rfl, rfl, haccepts, y, hy, hqueries y hy, hreports⟩

end Delivery

/-- Whatever the addresses answer and whenever shutdown comes: all submissions go to the primary
address, at most as many as attempts are allowed, and after an accepted one there are only queries
for the deploy that it named. No query is made before, and a success carries that deploy and what
one of the queries told. -/
theorem execute_submits_once {σ : Type} (answer : (q : Question) → σ → Answer q × σ) (s : σ)
    (n : Node) (request : Request) (policies : RelayPolicies) :
    let run := (relaying n (execute request policies)).run answer s
    let sent := trips ((relaying n (execute request policies)).transcript answer s)
    (∀ x ∈ sent, x.1.method = "account_put_deploy" ∧ x.1.url = n.primary ∨
      x.1.method = "info_get_deploy" ∧ x.1.url ∈ n.endpoints) ∧
    (sent.countP fun x => x.1.method == "account_put_deploy") ≤
      max 1 policies.submit.maxAttempts.toNat ∧
    (sent.Pairwise fun x y => ∀ id, x.1.method = "account_put_deploy" → n.Accepts x.2 id →
      y.1.method = "info_get_deploy" ∧ y.1.params = .object [("deploy_hash", .string id)]) ∧
    (∀ before y after, sent = before ++ y :: after → y.1.method = "info_get_deploy" →
      ∃ x ∈ before, ∃ id, x.1.method = "account_put_deploy" ∧ n.Accepts x.2 id ∧
        y.1.params = .object [("deploy_hash", .string id)]) ∧
    ∀ e, run.1 = .ok e → ∃ before x after, sent = before ++ x :: after ∧
      x.1.method = "account_put_deploy" ∧ n.Accepts x.2 e.receipt.id ∧
      ∃ y ∈ after, y.1.method = "info_get_deploy" ∧
        y.1.params = .object [("deploy_hash", .string e.receipt.id)] ∧
        n.Reports y.2 (.executed (.success e.payload)) := by
  have h := delivery_of_yields_execute
    (yields_transcript answer (relaying n (execute request policies)) s)
  refine ⟨fun x hx => ?_, h.countP_le, ?_, fun before y after hsent hy => ?_, fun e he => ?_⟩
  · rcases h.submission_or_inquiry x hx with hput | ⟨id, hget⟩
    · rw [hput]
      exact .inl ⟨rfl, rfl⟩
    · exact .inr ⟨hget.1, hget.2.2⟩
  · refine h.pairwise.imp fun hxy id hput hid => ?_
    obtain ⟨hmethod, hparams, -⟩ := hxy id hput hid
    exact ⟨hmethod, hparams⟩
  · obtain ⟨x, hx, id, hput, haccepts, hget⟩ := h.accepted_of_inquiry hsent hy
    refine ⟨x, hx, id, ?_, haccepts, hget.2.1⟩
    rw [hput]
    rfl
  · rw [he] at h
    obtain ⟨before, x, after, hsent, hput, haccepts, y, hy, hget, hreports⟩ := h.of_ok
    refine ⟨before, x, after, hsent, ?_, haccepts, y, hy, hget.1, hget.2.1, hreports⟩
    rw [hput]
    rfl

end Courier.Client
