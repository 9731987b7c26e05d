import Courier.CommandLine.Plan
import Courier.Proofs.Client.Execution
import Courier.Proofs.Relay.Receipts

/-!
What a caller is told once a submission is accepted. A success and a timeout name the receipt, in
the data and in the text. All other endings are the failure that the ledger reported for this
receipt, and a cancellation by shutdown.
-/
namespace Courier

open Dialogue Node

namespace Client

def tellsShutdown : (q : Question) × Answer q → Bool
  | ⟨.raised, up⟩ => up
  | ⟨.sleep _, .cut⟩ => true
  | ⟨.sleep _, .elapsed⟩ => false
  | ⟨.post _, _⟩ => false
  | ⟨.draw, _⟩ => false
  | ⟨.count _, _⟩ => false

variable {n : Node} {t : Log} {l : Relay.Log}

/-- What a relay heard of shutdown, the client in front of the node heard before. -/
theorem tellsShutdown_of_refines (h : Refines (through n) l t) (hcut : .cut ∈ Relay.events l) :
    ∃ e ∈ t, tellsShutdown e = true := by
  rcases Relay.mem_of_cut_mem_events hcut with he | ⟨time, he⟩
  · obtain ⟨u, v, w, rfl, hv⟩ := exists_part_of_refines h he
    have hraised : (question Question.raised : Serving Bool).Yields v true := hv
    rw [yields_question.1 hraised]
    exact ⟨⟨.raised, true⟩, by simp, rfl⟩
  · obtain ⟨u, v, w, rfl, hv⟩ := exists_part_of_refines h he
    have hslept : (question (Question.sleep time) : Serving Relay.Waking).Yields v .cut := hv
    rw [yields_question.1 hslept]
    exact ⟨⟨.sleep time, .cut⟩, by simp, rfl⟩

/-- A reply that a relay got to a query was told by an address. -/
theorem reports_of_refines {receipt : Receipt} {status : OutcomeStatus}
    (h : Refines (through n) l t) (hasked : .asked receipt (.ok status) ∈ Relay.events l) :
    ∃ y ∈ trips t, n.Inquires y.1 receipt.id ∧ n.Reports y.2 status := by
  obtain ⟨u, v, w, rfl, hv⟩ := exists_part_of_refines h (Relay.mem_of_asked_mem_events hasked)
  obtain ⟨hinquires, hreports⟩ := trips_of_yields_outcome (yields_trips_of_posting hv)
  obtain ⟨y, hy, hstatus⟩ := hreports status rfl
  refine ⟨y, ?_, hinquires y hy, hstatus⟩
  rw [trips_append, trips_append]
  exact List.mem_append_right _ (List.mem_append_left _ hy)

theorem ending_of_yields_confirm {receipt : Receipt} {policy : PollPolicy}
    {r : Except DeliveryError Json} (h : (relaying n (Relay.confirm receipt policy)).Yields t r) :
    (∀ x ∈ trips t, n.Inquires x.1 receipt.id) ∧
      ((∃ verdict, r = Relay.verdictResult verdict ∧
          ∃ y ∈ trips t, n.Inquires y.1 receipt.id ∧ n.Reports y.2 (.executed verdict)) ∨
        (∃ polls, r = .error (.timeout receipt polls)) ∨
        r = .error .cancelled ∧ ∃ e ∈ t, tellsShutdown e = true) := by
  obtain ⟨l, hl, hrefines⟩ := yields_substitute.1 h
  refine ⟨(trips_of_refines_confirm hl hrefines).1, ?_⟩
  rcases (Relay.ending_of_yields_confirm hl).2 with
    ⟨verdict, hr, hasked⟩ | htimeout | ⟨hr, hcut⟩
  · exact .inl ⟨verdict, hr, reports_of_refines hrefines hasked⟩
  · exact .inr (.inl htimeout)
  · exact .inr (.inr ⟨hr, tellsShutdown_of_refines hrefines hcut⟩)

theorem result_of_accepted {request : Request} {policy : SubmitPolicy}
    {r : Except DeliveryError Receipt} {x : Trip} {id : String}
    (h : (relaying n (Relay.call request policy)).Yields t r) (hx : x ∈ trips t)
    (hid : n.Accepts x.2 id) : r = .ok ⟨id⟩ := by
  obtain ⟨l, hl, hrefines⟩ := yields_substitute.1 h
  obtain ⟨rejected, hrejected, ⟨-, hsent, -⟩ | ⟨⟨id'⟩, y, rfl, hsent, -, haccepts⟩⟩ :=
    trips_of_refines_call hl hrefines
  · exact absurd hid ((hrejected x (hsent ▸ hx)).2 id)
  · rw [hsent] at hx
    rcases List.mem_append.1 hx with hx | hx
    · exact absurd hid ((hrejected x hx).2 id)
    · obtain rfl := List.mem_singleton.1 hx
      rw [Accepts.unique hid haccepts]

end Client

namespace CommandLine

theorem yields_orFail {ε α : Type} {failure : ε → Failure} {d : Serving (Except ε α)}
    {next : α → Serving Ending} {t : Client.Log} {r : Ending} :
    (orFail failure d next).Yields t r ↔
      (∃ u v a, t = u ++ v ∧ d.Yields u (.ok a) ∧ (next a).Yields v r) ∨
        ∃ e, r = .failed (failure e) ∧ d.Yields t (.error e) := by
  unfold orFail
  refine yields_bind_except next (fun e => .failed (failure e)) ?_ ?_ <;> intro _ <;> rfl

theorem ending_of_yields_deliver {c : Config} {n : Node} {request : Request} {t : Client.Log}
    {r : Ending} {x : Trip} {id : String} (h : (deliver c n request true).Yields t r)
    (hx : x ∈ Client.trips t) (hput : x.1.method = "account_put_deploy")
    (hid : n.Accepts x.2 id) :
    (∃ payload, r = .printed (.object [("receipt", .string id), ("payload", payload)])) ∨
      (∃ polls, r = .failed (.delivery (.timeout ⟨id⟩ polls))) ∨
      (∃ message, r = .failed (.delivery (.execution message)) ∧
        ∃ y ∈ Client.trips t, n.Inquires y.1 id ∧ n.Reports y.2 (.executed (.failure message))) ∨
      r = .failed (.delivery .cancelled) ∧ ∃ e ∈ t, Client.tellsShutdown e = true := by
  unfold deliver at h
  rcases yields_orFail.1 h with ⟨u, v, receipt, rfl, hu, hv⟩ | ⟨e, -, he⟩
  · rw [if_pos rfl] at hv
    rw [Client.trips_append] at hx ⊢
    -- The queries are no submissions, so the accepted attempt was made before.
    have hfirst (hall : ∀ y ∈ Client.trips v, n.Inquires y.1 receipt.id) : receipt = ⟨id⟩ := by
      rcases List.mem_append.1 hx with hx | hx
      · simpa using Client.result_of_accepted hu hx hid
      · rw [(hall x hx).1] at hput
        exact absurd hput (by decide)
    rcases yields_orFail.1 hv with ⟨v, w, payload, rfl, he, hw⟩ | ⟨e, rfl, he⟩
    · obtain ⟨rfl, rfl⟩ := yields_done.1 hw
      rw [List.append_nil] at hfirst
      obtain rfl := hfirst (Client.ending_of_yields_confirm he).1
      exact .inl ⟨payload, rfl⟩
    · obtain ⟨hall, hend⟩ := Client.ending_of_yields_confirm he
      obtain rfl := hfirst hall
      rcases hend with
        ⟨verdict, hverdict, y, hy, hreports⟩ | ⟨polls, hpolls⟩ | ⟨hcut, e', he', htold⟩
      · cases verdict with
        | success payload => cases hverdict
        | failure message =>
          cases hverdict
          exact .inr (.inr (.inl ⟨message, rfl, y, List.mem_append_right _ hy, hreports⟩))
      · cases hpolls
        exact .inr (.inl ⟨polls, rfl⟩)
      · cases hcut
        exact .inr (.inr (.inr ⟨rfl, e', List.mem_append_right _ he', htold⟩))
  · cases Client.result_of_accepted he hx hid

theorem report_timeout (receipt : Receipt) (polls : UInt32) :
    (DeliveryError.timeout receipt polls).report =
      "Timeout \x7b receipt: Receipt(" ++ Text.quote receipt.id ++
        ("), polls: " ++ toString polls ++ " \x7d") := by
  have hgroup : ∀ a b c d e : String, a ++ b ++ c ++ d ++ e = a ++ b ++ (c ++ d ++ e) := by
    intro a b c d e
    simp only [String.append_assoc]
  exact hgroup _ _ _ _ _

/-- Once an attempt is accepted, its receipt is handed back with the payload, or a timeout tells it
in its text. Otherwise the ledger reported for it the failure that is handed back, or shutdown cut
a wait. An execution by a relay and a delivery by the command line agree in this. -/
theorem accepted_receipt_kept :
    (∀ (σ : Type) (answer : (q : Relay.Question) → σ → Relay.Answer q × σ) (s : σ)
      (request : Request) (policies : RelayPolicies) (q : Request) (receipt : Receipt),
      let seen := Relay.events ((Relay.execute request policies).transcript answer s)
      let outcome := ((Relay.execute request policies).run answer s).1
      .submitted q (.ok receipt) ∈ seen →
      (∃ payload, outcome = .ok ⟨receipt, payload⟩) ∨
      (∃ polls text, outcome = .error (.timeout receipt polls) ∧
        (DeliveryError.timeout receipt polls).message = text ++ receipt.id) ∨
      (∃ message, outcome = .error (.execution message) ∧
        .asked receipt (.ok (.executed (.failure message))) ∈ seen) ∨
      outcome = .error .cancelled ∧ .cut ∈ seen) ∧
    ∀ (σ : Type) (answer : (q : Client.Question) → σ → Client.Answer q × σ) (s : σ) (c : Config)
      (n : Node) (request : Request) (x : Trip) (id : String),
      let log := (deliver c n request true).transcript answer s
      let ending := ((deliver c n request true).run answer s).1
      x ∈ Client.trips log → x.1.method = "account_put_deploy" → n.Accepts x.2 id →
      (∃ payload, ending = .printed (.object [("receipt", .string id), ("payload", payload)]) ∧
        ending.stdout =
          (Json.object [("receipt", .string id), ("payload", payload)]).pretty ++ "\n") ∨
      (∃ polls start rest, ending = .failed (.delivery (.timeout ⟨id⟩ polls)) ∧
        (Failure.delivery (.timeout ⟨id⟩ polls)).report = start ++ Text.quote id ++ rest) ∨
      (∃ message, ending = .failed (.delivery (.execution message)) ∧
        ∃ y ∈ Client.trips log, n.Inquires y.1 id ∧
          n.Reports y.2 (.executed (.failure message))) ∨
      ending = .failed (.delivery .cancelled) ∧ ∃ e ∈ log, Client.tellsShutdown e = true := by
  constructor
  · intro σ answer s request policies q receipt seen outcome haccepted
    rcases Relay.ending_of_yields_execute (yields_transcript answer _ s) haccepted with
      hok | ⟨polls, htimeout⟩ | hrest
    · exact .inl hok
    · exact .inr (.inl ⟨polls, _, htimeout, rfl⟩)
    · exact .inr (.inr hrest)
  · intro σ answer s c n request x id log ending hx hput hid
    rcases ending_of_yields_deliver (yields_transcript answer _ s) hx hput hid with
      ⟨payload, hprinted⟩ | ⟨polls, htimeout⟩ | hrest
    · exact .inl ⟨payload, hprinted, congrArg Ending.stdout hprinted⟩
    · exact .inr (.inl ⟨polls, _, _, htimeout, report_timeout ⟨id⟩ polls⟩)
    · exact .inr (.inr hrest)

def sampleNode : Node where
  primary := ⟨"http", some ⟨[], [], .name "node".toList, none⟩, .segments [[]], none, none⟩
  failovers := []
  chainName := "casper-test"
  deadline := .ofMilliseconds 30000

def sampleReply : Delayed Exchange where
  after := 0
  value :=
    .reply 200 "\x7b\"result\":\x7b\"deploy_hash\":\"r-1\"\x7d\x7d".toUTF8.toList

/-- Surroundings that give every request the same reply and raise shutdown. -/
def sampleAnswer : (q : Client.Question) → Unit → Client.Answer q × Unit
  | .post _, s => (sampleReply, s)
  | .draw, s => ((0 : UInt64), s)
  | .raised, s => (true, s)
  | .sleep _, s => (.cut, s)
  | .count _, s => ((), s)

theorem accepts_sampleReply : sampleNode.Accepts sampleReply "r-1" := by
  obtain ⟨v, hanswers, hv⟩ : ∃ result, sampleNode.Answers sampleReply result ∧
      ((result.get "deploy_hash").text? == some "r-1") = true :=
    exists_answers_of_text (by decide) rfl rfl (by decide +kernel)
  exact ⟨v, hanswers, Json.text?_eq_some_iff.1 (beq_iff_eq.1 hv)⟩

theorem accepted_receipt_kept_sample :
    let request := (Request.Draft.install [0]).build .default
    let log := (deliver .default sampleNode request true).transcript sampleAnswer ()
    (∀ attempts e, ((Relay.execute request ⟨.default, .default⟩).run Relay.Script.answer
      (.interrupted "r-1" .pending)).1 ≠ .error (.remote attempts e)) ∧
    ⟨sampleNode.submission request, sampleReply⟩ ∈ Client.trips log ∧
    sampleNode.Accepts sampleReply "r-1" ∧
    ∀ attempts e, ((deliver .default sampleNode request true).run sampleAnswer ()).1 ≠
      .failed (.delivery (.remote attempts e)) := by
  intro request log
  have hasked : sampleNode.primary.canBeAsked = true := by decide +kernel
  have hlog : ∃ rest, log = ⟨.post (sampleNode.submission request), sampleReply⟩ :: rest := by
    simp only [log, deliver, orFail, Client.relaying, Relay.call]
    rw [Relay.callFrom.eq_1]
    simp only [substitute, Client.through, Client.posting, Node.submit, Node.post, if_pos hasked]
    exact ⟨_, rfl⟩
  have hmem : (⟨sampleNode.submission request, sampleReply⟩ : Trip) ∈ Client.trips log := by
    obtain ⟨rest, hrest⟩ := hlog
    rw [hrest]
    exact List.mem_cons_self
  refine ⟨fun attempts e h => ?_, hmem, accepts_sampleReply, fun attempts e h => ?_⟩
  · have hends := accepted_receipt_kept.1 _ Relay.Script.answer (.interrupted "r-1" .pending)
      request ⟨.default, .default⟩ request ⟨"r-1"⟩
      (Relay.accepted_interrupted request "r-1" .pending)
    rw [h] at hends
    simp at hends
  · have hends := accepted_receipt_kept.2 _ sampleAnswer () .default sampleNode request _ "r-1"
      hmem rfl accepts_sampleReply
    rw [h] at hends
    simp [Ending.failed, Ending.printed] at hends

end CommandLine
end Courier
