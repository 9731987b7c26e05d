import Courier.Proofs.CommandLine.Receipts
import Courier.Proofs.CommandLine.Spelled
import Courier.Proofs.Config.Service
import Courier.Proofs.Json.ReadBack

/-!
What becomes of a contract call that a command line asks for: what is sent for it, what is printed
and when it fails.
-/
namespace Courier

open Dialogue Node

/-- Whatever comes of a submission, its attempts are one and the same request. -/
theorem Client.trips_of_yields_call {n : Node} {request : Request} {policy : SubmitPolicy}
    {t : Log} {r : Except DeliveryError Receipt}
    (h : (relaying n (Relay.call request policy)).Yields t r) :
    ∀ x ∈ trips t, x.1 = n.submission request := by
  obtain ⟨l, hl, hrefines⟩ := yields_substitute.1 h
  obtain ⟨rejected, hrejected, ⟨-, hsent, -⟩ | ⟨receipt, y, -, hsent, -, -⟩⟩ :=
    trips_of_refines_call hl hrefines
  · exact fun x hx => (hrejected x (hsent ▸ hx)).1
  · intro x hx
    rw [hsent] at hx
    rcases List.mem_append.1 hx with hx | hx
    · exact (hrejected x hx).1
    · rw [List.mem_singleton.1 hx]

namespace CommandLine

theorem run_orFail {σ ε α : Type} (answer : (q : Client.Question) → σ → Client.Answer q × σ)
    (s : σ) (failure : ε → Failure) (d : Serving (Except ε α)) (next : α → Serving Ending) :
    (orFail failure d next).run answer s =
      match (d.run answer s).1 with
      | .ok a => (next a).run answer (d.run answer s).2
      | .error e => (.failed (failure e), (d.run answer s).2) := by
  unfold orFail
  rw [run_bind]
  cases (d.run answer s).1 <;> rfl

/-- What a delivery sends: the submission of its request, and queries if it waits. -/
theorem trips_of_yields_deliver {c : Config} {n : Node} {request : Request} {waits : Bool}
    {t : Client.Log} {r : Ending} (h : (deliver c n request waits).Yields t r) :
    ∀ x ∈ Client.trips t,
      x.1 = n.submission request ∨ waits = true ∧ ∃ id, n.Inquires x.1 id := by
  unfold deliver at h
  intro x hx
  rcases yields_orFail.1 h with ⟨u, v, receipt, rfl, hu, hv⟩ | ⟨e, -, he⟩
  · rw [Client.trips_append] at hx
    rcases List.mem_append.1 hx with hx | hx
    · exact .inl (Client.trips_of_yields_call hu x hx)
    · cases waits with
      | false =>
        obtain ⟨rfl, -⟩ := yields_done.1 hv
        cases hx
      | true =>
        rw [if_pos rfl] at hv
        refine .inr ⟨rfl, receipt.id, ?_⟩
        rcases yields_orFail.1 hv with ⟨v, w, payload, rfl, he, hw⟩ | ⟨e, -, he⟩
        · obtain ⟨rfl, -⟩ := yields_done.1 hw
          rw [List.append_nil] at hx
          exact (Client.ending_of_yields_confirm he).1 x hx
        · exact (Client.ending_of_yields_confirm he).1 x hx
  · exact .inl (Client.trips_of_yields_call he x hx)

theorem Ending.stdout_of_some {e : Ending} {v : Json} (h : e.output? = some v) :
    e.stdout = v.pretty ++ "\n" := by
  rw [Ending.stdout, h, Option.elim_some]

theorem Ending.stdout_of_none {e : Ending} (h : e.output? = none) : e.stdout = "" := by
  rw [Ending.stdout, h, Option.elim_none]

/-- What is printed reads back as what is told. -/
theorem Ending.ofText?_stdout {e : Ending} {v : Json} (h : e.output? = some v)
    (hv : v.Legible Json.maxDepth) : Json.ofText? e.stdout = some v.inOrder := by
  rw [Ending.stdout_of_some h]
  exact Json.ofText?_pretty hv (by decide)

/-- How a delivery ends, told by what its submission and its confirmation give. -/
def deliveryEnding (waits : Bool) (submitted : Except DeliveryError Receipt)
    (confirmed : Receipt → Except DeliveryError Json) : Ending :=
  match submitted with
  | .error e => .failed (.delivery e)
  | .ok receipt =>
    if waits then
      match confirmed receipt with
      | .error e => .failed (.delivery e)
      | .ok payload => .printed (.object [("receipt", .string receipt.id), ("payload", payload)])
    else .printed (.object [("receipt", .string receipt.id)])

theorem run_deliver {σ : Type} (answer : (q : Client.Question) → σ → Client.Answer q × σ) (s : σ)
    (c : Config) (n : Node) (request : Request) (waits : Bool) :
    let policies := RelayPolicies.ofConfig c
    let submitted := (Client.relaying n (Relay.call request policies.submit)).run answer s
    ((deliver c n request waits).run answer s).1 =
      deliveryEnding waits submitted.1 fun receipt =>
        ((Client.relaying n (Relay.confirm receipt policies.poll)).run answer submitted.2).1 := by
  unfold deliver deliveryEnding
  dsimp only
  rw [run_orFail]
  cases ((Client.relaying n (Relay.call request (RelayPolicies.ofConfig c).submit)).run
    answer s).1 with
  | error e => rfl
  | ok receipt =>
    dsimp only
    cases waits with
    | false => rfl
    | true =>
      rw [if_pos rfl, if_pos rfl, run_orFail]
      generalize (Client.relaying n (Relay.confirm receipt _)).run answer _ = confirmed
      cases confirmed.1 <;> rfl

namespace deliveryEnding

variable {waits : Bool} {submitted : Except DeliveryError Receipt}
  {confirmed : Receipt → Except DeliveryError Json}

theorem output_eq_some_iff {v : Json} :
    (deliveryEnding waits submitted confirmed).output? = some v ↔
      ∃ receipt, submitted = .ok receipt ∧
        (waits = false ∧ v = .object [("receipt", .string receipt.id)] ∨
          waits = true ∧ ∃ payload, confirmed receipt = .ok payload ∧
            v = .object [("receipt", .string receipt.id), ("payload", payload)]) := by
  unfold deliveryEnding
  cases submitted with
  | error e => simp [Ending.failed]
  | ok receipt =>
    cases waits with
    | false => simp [Ending.printed, eq_comm]
    | true =>
      cases hconfirmed : confirmed receipt with
      | error e => simp [Ending.failed, hconfirmed]
      | ok payload => simp [Ending.printed, hconfirmed, eq_comm]

theorem status_ne_zero_iff :
    (deliveryEnding waits submitted confirmed).status ≠ 0 ↔
      (∃ e, submitted = .error e) ∨
        waits = true ∧ ∃ receipt e, submitted = .ok receipt ∧ confirmed receipt = .error e := by
  unfold deliveryEnding
  cases submitted with
  | error e => simp [Ending.failed, Ending.status]
  | ok receipt =>
    cases waits with
    | false => simp [Ending.printed, Ending.status]
    | true =>
      cases hconfirmed : confirmed receipt with
      | error e => simp [Ending.failed, Ending.status, hconfirmed]
      | ok payload => simp [Ending.printed, Ending.status, hconfirmed]

end deliveryEnding

def Plan.transcript {σ : Type} (answer : (q : Client.Question) → σ → Client.Answer q × σ) :
    Plan → σ → Client.Log
  | alone d, s => d.transcript answer s
  | sideBySide ds _, s => (Dialogue.traverse id ds).transcript answer s

namespace Invocation

variable {σ : Type}

def ending (i : Invocation) (files : String → Except ReadError (List UInt8))
    (lookup : String → Option String) (answer : (q : Client.Question) → σ → Client.Answer q × σ)
    (s : σ) : Ending :=
  match i.plan files lookup with
  | .error f => .failed f
  | .ok plan => (plan.run answer s).1

/-- What an invocation sends to addresses, with what comes back. -/
def sent (i : Invocation) (files : String → Except ReadError (List UInt8))
    (lookup : String → Option String) (answer : (q : Client.Question) → σ → Client.Answer q × σ)
    (s : σ) : List Trip :=
  match i.plan files lookup with
  | .error _ => []
  | .ok plan => Client.trips (plan.transcript answer s)

variable {i : Invocation} {files : String → Except ReadError (List UInt8)}
  {lookup : String → Option String} {c : Config} {t : Target} {made : ContractCall}

/-- Under settings that are accepted a node can be asked. -/
theorem node_of_settings (h : i.settings files lookup = .ok c) :
    ∃ n, Node.ofSettings c.node = .ok n ∧ n.chainName = c.node.chainName := by
  unfold settings at h
  split at h
  case h_1 => cases h
  case h_2 c₀ hload =>
    have hnode : c.node = c₀.node := by
      cases h
      cases i.logLevel? <;> rfl
    obtain ⟨-, -, -, hvalid⟩ := Config.load_eq_ok_iff.1 hload
    rw [hnode]
    obtain ⟨n, hn, -, hchain, -⟩ := Node.ofSettings_of_readable fun text htext =>
      (hvalid.addresses text htext).imp fun _ hurl => hurl.1
    exact ⟨n, hn, hchain⟩

/-- A call is a delivery once its contract is found. -/
theorem plan_of_call {n : Node} (hcall : i.command = .call t made)
    (hsettings : i.settings files lookup = .ok c) (hn : Node.ofSettings c.node = .ok n) :
    i.plan files lookup = (findContract c made.family t.contract?).map fun contract =>
      .alone (deliver c n (made.operation.request contract t.payment? c.deploy) t.waits) := by
  unfold plan
  rw [hsettings]
  dsimp only
  rw [hn, hcall]
  rfl

/-- A contract call that a command line asks for, under settings that are accepted. The words
spell the call and its target, flag by flag. Unless the contract is found, nothing is sent and the
command fails. Otherwise all that is sent is the envelope of the operation of the call, and queries
for its outcome if that is waited for. The receipt is printed, and with it the payload if it is
waited for, when everything that was asked for succeeds, and nothing is printed otherwise. The
printed text reads back as what it tells where text can carry the payload. The command fails when
any of it fails. -/
theorem call_delivered {args : List String} (hargs : ofArguments args = .ok i)
    (hcall : i.command = .call t made) (hsettings : i.settings files lookup = .ok c) :
    (∃ before given rest, args = before ++ made.family :: rest ∧
      Written common.rules before given ∧ made.SpelledLast t rest) ∧
    ∀ (σ : Type) (answer : (q : Client.Question) → σ → Client.Answer q × σ) (s : σ),
      let sent := i.sent files lookup answer s
      let ending := i.ending files lookup answer s
      (∀ f, findContract c made.family t.contract? = .error f →
        sent = [] ∧ ending = .failed f ∧ ending.stdout = "") ∧
      ∀ contract, findContract c made.family t.contract? = .ok contract →
        ∃ n, Node.ofSettings c.node = .ok n ∧
          let request := made.operation.request contract t.payment? c.deploy
          let policies := RelayPolicies.ofConfig c
          let submitted := (Client.relaying n (Relay.call request policies.submit)).run answer s
          let confirmed (receipt : Receipt) :=
            ((Client.relaying n (Relay.confirm receipt policies.poll)).run answer submitted.2).1
          (∀ x ∈ sent, x.1.method = "info_get_deploy" ∨ x.1 = ⟨n.primary, "account_put_deploy",
            .object [("deploy", request.envelope c.node.chainName)]⟩) ∧
          (t.waits = false → (∀ x ∈ sent, x.1.method ≠ "info_get_deploy") ∧
            (∀ v, ending.output? = some v ↔ ∃ receipt, submitted.1 = .ok receipt ∧
              v = .object [("receipt", .string receipt.id)]) ∧
            ∀ receipt, submitted.1 = .ok receipt →
              ending.stdout = (Json.object [("receipt", .string receipt.id)]).pretty ++ "\n") ∧
          (t.waits = true → (∀ v, ending.output? = some v ↔
            ∃ receipt payload, submitted.1 = .ok receipt ∧ confirmed receipt = .ok payload ∧
              v = .object [("receipt", .string receipt.id), ("payload", payload)]) ∧
            ∀ receipt payload, submitted.1 = .ok receipt → confirmed receipt = .ok payload →
              ending.stdout = (Json.object [("receipt", .string receipt.id),
                ("payload", payload)]).pretty ++ "\n") ∧
          (ending.output? = none → ending.stdout = "") ∧
          (∀ v, ending.output? = some v → v.Legible Json.maxDepth →
            Json.ofText? ending.stdout = some v.inOrder) ∧
          (ending.status ≠ 0 ↔ (∃ e, submitted.1 = .error e) ∨
            t.waits = true ∧ ∃ receipt e, submitted.1 = .ok receipt ∧
              confirmed receipt = .error e) := by
  refine ⟨spelled hargs hcall, fun σ answer s => ?_⟩
  obtain ⟨n, hn, hchain⟩ := node_of_settings hsettings
  have hplan := plan_of_call hcall hsettings hn
  constructor
  · intro f hf
    rw [hf] at hplan
    simp [Invocation.sent, Invocation.ending, hplan, Except.map, Ending.failed, Ending.stdout]
  · intro contract hcontract
    rw [hcontract] at hplan
    refine ⟨n, hn, ?_⟩
    intro request policies submitted confirmed
    have hending : i.ending files lookup answer s =
        deliveryEnding t.waits submitted.1 confirmed := by
      unfold Invocation.ending
      rw [hplan]
      exact run_deliver answer s c n request t.waits
    have hsent : ∀ x ∈ i.sent files lookup answer s,
        x.1 = n.submission request ∨ t.waits = true ∧ ∃ id, n.Inquires x.1 id := by
      unfold Invocation.sent
      rw [hplan]
      exact trips_of_yields_deliver (yields_transcript answer _ s)
    rw [hending]
    refine ⟨?_, ?_, ?_, Ending.stdout_of_none, fun v => Ending.ofText?_stdout,
      deliveryEnding.status_ne_zero_iff⟩
    · intro x hx
      rcases hsent x hx with hx | ⟨-, id, hquery, -⟩
      · rw [hx, ← hchain]
        exact .inr rfl
      · exact .inl hquery
    · intro hwaits
      refine ⟨fun x hx => ?_, fun v => ?_, fun receipt hreceipt => ?_⟩
      · rcases hsent x hx with hx | ⟨hwaits', -⟩
        · rw [hx]
          exact ne_of_beq_false rfl
        · rw [hwaits] at hwaits'
          cases hwaits'
      · simp [deliveryEnding.output_eq_some_iff, hwaits]
      · exact Ending.stdout_of_some
          (deliveryEnding.output_eq_some_iff.2 ⟨receipt, hreceipt, .inl ⟨hwaits, rfl⟩⟩)
    · intro hwaits
      refine ⟨fun v => ?_, fun receipt payload hreceipt hpayload => ?_⟩
      · simp [deliveryEnding.output_eq_some_iff, hwaits]
      · exact Ending.stdout_of_some (deliveryEnding.output_eq_some_iff.2
          ⟨receipt, hreceipt, .inr ⟨hwaits, payload, hpayload, rfl⟩⟩)

/-- A stake of 1000 in the pool 7, whose outcome is not waited for. -/
def sample : Invocation where
  config? := none
  logLevel? := none
  command := .call ⟨some (String.ofList (List.replicate 64 '7')), none, false⟩
    (.staking (.stake 7 1000 16))

theorem call_delivered_sample :
    let args := ["staking", "--contract", String.ofList (List.replicate 64 '7'), "--no-wait",
      "stake", "--pool-id", "7", "--amount=1_000", "--duration", "0x10"]
    let request := (StakingCall.stake 7 1000 16).operation.request
      ⟨⟨List.replicate 32 0x77, rfl⟩⟩ none .default
    let sent := sample.sent (fun _ => .error .missing) (fun _ => none) sampleAnswer ()
    ofArguments args = .ok sample ∧
      sample.settings (fun _ => .error .missing) (fun _ => none) = .ok .default ∧
      request.payment = 50000000000 ∧ request.arguments.entries =
        [("pool_id", .u64 7), ("amount", .u256 1000), ("stake_duration", .u256 16)] ∧
      sent ≠ [] ∧ ∀ x ∈ sent, x.1.method = "account_put_deploy" ∧
        x.1.params = .object [("deploy", request.envelope "casper-test")] := by
  intro args request sent
  have hargs : ofArguments args = .ok sample := by decide +kernel
  have hsettings : sample.settings (fun _ => .error .missing) (fun _ => none) = .ok .default := by
    decide +kernel
  have hcontract : findContract .default "staking" (some (String.ofList (List.replicate 64 '7'))) =
      .ok ⟨⟨List.replicate 32 0x77, rfl⟩⟩ := by
    decide +kernel
  have hsome : sent.isEmpty = false := by decide +kernel
  obtain ⟨-, hruns⟩ := call_delivered hargs rfl hsettings
  obtain ⟨n, -, hsent, hqueries, -⟩ := (hruns _ sampleAnswer ()).2 _ hcontract
  refine ⟨hargs, hsettings, by decide +kernel, by decide +kernel, ?_, fun x hx => ?_⟩
  · rintro h
    rw [h] at hsome
    cases hsome
  · rcases hsent x hx with hquery | hput
    · exact absurd hquery ((hqueries rfl).1 x hx)
    · rw [hput]
      exact ⟨rfl, rfl⟩

end Invocation
end CommandLine
end Courier
