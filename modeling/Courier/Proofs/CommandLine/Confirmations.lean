import Courier.Proofs.CommandLine.Calls
import Courier.Proofs.CommandLine.Words
import Courier.Proofs.Dialogue.SideBySide
import Courier.Proofs.Relay.Attempts
import Courier.Proofs.Relay.Pauses

/-!
The report on confirmations that are held side by side. It has one entry for each receipt, in the
order of the receipts, and the command fails exactly when one of the entries tells an error.
-/
namespace Courier

open Dialogue

instance (q : Client.Question) : Nonempty (Client.Answer q) := by
  cases q with
  | post _ => exact ⟨⟨0, .failed⟩⟩
  | draw => exact ⟨(0 : UInt64)⟩
  | raised => exact ⟨false⟩
  | sleep _ => exact ⟨.elapsed⟩
  | count _ => exact ⟨()⟩

namespace Client

/-- How a confirmation went: its questions, and what the client in front of the node made of them.
It asked for its receipt only, once at least and as often as the policy allows at most, and slept
for the interval of the policy. -/
structure Confirmed (n : Node) (policy : PollPolicy) (receipt : Receipt) (t : Log)
    (result : Except DeliveryError Json) (calls : Relay.Log) : Prop where
  yields : (Relay.confirm receipt policy).Yields calls result
  refines : Refines (through n) calls t
  asked_eq : ∀ r reply, .asked r reply ∈ Relay.events calls → r = receipt
  one_le_queries : 1 ≤ Relay.queries calls
  queries_le : Relay.queries calls ≤ max 1 policy.maxPolls.toNat
  sleep_eq : ∀ time ∈ Relay.sleeps calls, time = policy.pollInterval

theorem exists_confirmed {n : Node} {policy : PollPolicy} {receipt : Receipt} {t : Log}
    {result : Except DeliveryError Json}
    (h : (relaying n (Relay.confirm receipt policy)).Yields t result) :
    ∃ calls, Confirmed n policy receipt t result calls := by
  obtain ⟨calls, hcalls, hrefines⟩ := yields_substitute.1 h
  have hqueries := Relay.queries_of_yields_confirm hcalls
  exact ⟨calls, hcalls, hrefines, fun _ _ => Relay.eq_of_asked_mem_confirm hcalls, hqueries.1,
    hqueries.2, fun _ => Relay.eq_of_mem_sleeps_confirm hcalls⟩

end Client

namespace CommandLine

/-- An entry of a report names its receipt and tells the payload or else the error. -/
structure Tells (entry : Json) (receipt : Receipt) (result : Except DeliveryError Json) :
    Prop where
  receipt : entry.get "receipt" = .string receipt.id
  payload : ∀ v, entry.member? "payload" = some v ↔ result = .ok v
  error : ∀ v, entry.member? "error" = some v ↔ ∃ e, result = .error e ∧ v = .string e.message
  single : (entry.member? "payload").isSome ≠ (entry.member? "error").isSome

def tellsError (entry : Json) : Bool :=
  (entry.member? "error").isSome

theorem tells_confirmationJson (receipt : Receipt) (result : Except DeliveryError Json) :
    Tells (confirmationJson receipt result) receipt result := by
  cases result with
  | ok payload => constructor <;> simp [confirmationJson, Json.get, Json.member?, eq_comm]
  | error e => constructor <;> simp [confirmationJson, Json.get, Json.member?, eq_comm]

theorem tellsError_confirmationJson (receipt : Receipt) (result : Except DeliveryError Json) :
    tellsError (confirmationJson receipt result) = !result.toBool := by
  cases result <;> simp [tellsError, confirmationJson, Json.member?, Except.toBool]

theorem legible_confirmationJson {receipt : Receipt} {result : Except DeliveryError Json}
    {levels : Nat} (h : ∀ v, result = .ok v → v.Legible levels) :
    (confirmationJson receipt result).Legible (levels + 1) := by
  cases result with
  | ok payload =>
    refine .object (by simp) fun m hm => ?_
    rcases List.mem_pair.1 hm with rfl | rfl
    · exact .string _
    · exact h payload rfl
  | error e =>
    refine .object (by simp) fun m hm => ?_
    rcases List.mem_pair.1 hm with rfl | rfl
    · exact .string _
    · exact .string _

theorem legible_zipWith_confirmationJson {receipts : List Receipt}
    {results : List (Except DeliveryError Json)} {levels : Nat}
    (h : ∀ v, .ok v ∈ results → v.Legible levels) :
    (Json.array (receipts.zipWith confirmationJson results)).Legible (levels + 2) := by
  refine .array fun entry hentry => ?_
  rw [← List.map_uncurry_zip_eq_zipWith] at hentry
  obtain ⟨⟨receipt, result⟩, hmem, rfl⟩ := List.mem_map.1 hentry
  exact legible_confirmationJson fun v hv => h v (hv ▸ (List.of_mem_zip hmem).2)

theorem countP_tellsError {receipts : List Receipt} {results : List (Except DeliveryError Json)}
    (h : results.length = receipts.length) :
    (receipts.zipWith confirmationJson results).countP tellsError =
      results.countP fun r => !r.toBool := by
  induction receipts generalizing results with
  | nil =>
    obtain rfl := List.length_eq_zero_iff.1 h
    rfl
  | cons receipt receipts ih =>
    cases results with
    | nil => cases h
    | cons result results =>
      have hrest := ih (Nat.succ.inj h)
      rw [List.zipWith_cons_cons, List.countP_cons, List.countP_cons, hrest,
        tellsError_confirmationJson]

theorem failure_confirmationEnding {receipts : List Receipt}
    {results : List (Except DeliveryError Json)} (h : results.length = receipts.length) :
    let failed := (receipts.zipWith confirmationJson results).countP tellsError
    (confirmationEnding receipts results).failure? =
      if failed = 0 then none else some (.unconfirmed failed receipts.length) := by
  unfold confirmationEnding
  rw [countP_tellsError h]

theorem Ending.status_ne_zero_iff (e : Ending) : e.status ≠ 0 ↔ e.failure? ≠ none := by
  unfold Ending.status
  cases e.failure? <;> simp

theorem pollPolicy_eq (c : Config) (maxPolls? : Option UInt32) (pollIntervalMs? : Option UInt64) :
    pollPolicy c maxPolls? pollIntervalMs? = ⟨maxPolls?.getD c.confirm.maxPolls,
      .ofMilliseconds (pollIntervalMs?.getD c.confirm.pollIntervalMs)⟩ := by
  cases pollIntervalMs? <;> rfl

namespace Invocation

variable {i : Invocation} {files : String → Except ReadError (List UInt8)}
  {lookup : String → Option String} {c : Config} {receipts : List Receipt}
  {maxPolls? : Option UInt32} {pollIntervalMs? : Option UInt64}

theorem plan_of_confirm {n : Node}
    (hconfirm : i.command = .confirm receipts maxPolls? pollIntervalMs?)
    (hsettings : i.settings files lookup = .ok c) (hn : Node.ofSettings c.node = .ok n) :
    i.plan files lookup = .ok (.sideBySide
      ((Relay.confirmEach receipts (pollPolicy c maxPolls? pollIntervalMs?)).map
        (Client.relaying n)) (confirmationEnding receipts)) := by
  unfold plan
  rw [hsettings]
  dsimp only
  rw [hn, hconfirm]
  rfl

/-- Confirmations that a command line asks for, under settings that are accepted. Its words name
the receipts in their order. The confirmations are held side by side, in any order and with any
answers, shutdown among them; they always come to their end. Then a report is printed with an entry
for each receipt, in the same order, that names the receipt and tells the payload or else the
error. The text of the report reads back as its entries where text can carry the payloads. The
command fails exactly when an entry tells an error, and says how many do. Each receipt is asked for
once at least and as often as the polls allow at most; their limit and their interval are each what
the command line says, or else what the settings say. -/
theorem confirmations_reported
    (hconfirm : i.command = .confirm receipts maxPolls? pollIntervalMs?)
    (hsettings : i.settings files lookup = .ok c) :
    (∀ args, ofArguments args = .ok i → ∃ before given rest, args = before ++ "confirm" :: rest ∧
      Written common.rules before given ∧
      ConfirmSpelled receipts maxPolls? pollIntervalMs? rest) ∧
    ∃ n dialogues ending, Node.ofSettings c.node = .ok n ∧
      i.plan files lookup = .ok (.sideBySide dialogues ending) ∧
      Acc After dialogues ∧
      (∀ log now, SideBySide dialogues log now →
        ∃ more, ∃ results : List (Except DeliveryError Json),
          SideBySide now more (results.map .done)) ∧
      ∀ log (results : List (Except DeliveryError Json)),
        SideBySide dialogues log (results.map .done) →
        let policy : PollPolicy := ⟨maxPolls?.getD c.confirm.maxPolls,
          .ofMilliseconds (pollIntervalMs?.getD c.confirm.pollIntervalMs)⟩
        ∃ entries : List Json,
          (ending results).output? = some (.array entries) ∧
          (ending results).stdout = (Json.array entries).pretty ++ "\n" ∧
          ((∀ v, .ok v ∈ results → v.Legible (Json.maxDepth - 2)) →
            Json.ofText? (ending results).stdout = some (Json.array entries).inOrder) ∧
          entries.length = receipts.length ∧
          (∀ k receipt, receipts[k]? = some receipt → ∃ entry result calls,
            entries[k]? = some entry ∧ Tells entry receipt result ∧
            Client.Confirmed n policy receipt (partOf k log) result calls) ∧
          let failed := entries.countP tellsError
          ((ending results).status ≠ 0 ↔ ∃ entry ∈ entries, tellsError entry = true) ∧
          (ending results).failure?.map Failure.report =
            if failed = 0 then none else some (Text.quote (toString failed ++ " of " ++
              toString receipts.length ++ " confirmations failed")) := by
  refine ⟨fun args hargs => confirm_spelled hargs hconfirm, ?_⟩
  obtain ⟨n, hn, -⟩ := node_of_settings hsettings
  refine ⟨n, _, _, hn, plan_of_confirm hconfirm hsettings hn, acc_after _, fun log now _ =>
    exists_sideBySide_done now, fun log results h => ?_⟩
  rw [pollPolicy_eq] at h
  intro policy
  have hlength : results.length = receipts.length := by
    simpa [Relay.confirmEach] using h.length_eq
  have hfailure := failure_confirmationEnding hlength
  refine ⟨receipts.zipWith confirmationJson results, rfl, rfl, fun hlegible =>
    Ending.ofText?_stdout rfl (legible_zipWith_confirmationJson hlegible), ?_,
    fun k receipt hk => ?_, ?_, ?_⟩
  · rw [List.length_zipWith, hlength, Nat.min_self]
  -- Whatever the others do, the entries of one place are a way through its confirmation.
  · have hd : ((Relay.confirmEach receipts policy).map (Client.relaying n))[k]? =
        some (Client.relaying n (Relay.confirm receipt policy)) := by
      simp [Relay.confirmEach, hk]
    obtain ⟨result, hresult, hyields⟩ := h.yields hd
    obtain ⟨calls, hcalls⟩ := Client.exists_confirmed hyields
    refine ⟨confirmationJson receipt result, result, calls, ?_, tells_confirmationJson _ _, hcalls⟩
    rw [List.getElem?_zipWith, hk, hresult]
  · rw [Ending.status_ne_zero_iff, hfailure, ← List.countP_pos_iff, Nat.pos_iff_ne_zero]
    simp
  · rw [hfailure]
    split <;> rfl

/-- Three receipts, one of them twice, that are asked for once each. -/
def threeReceipts : Invocation where
  config? := none
  logLevel? := none
  command := .confirm [⟨"a"⟩, ⟨"b"⟩, ⟨"a"⟩] (some 0) none

/-- Surroundings in which the receipt `a` is executed and there is no reply about others. -/
def answerToOne : (q : Client.Question) → Unit → Client.Answer q × Unit
  | .post request, s =>
    let reply := "\x7b\"result\":\x7b\"execution_results\":" ++
      "[\x7b\"result\":\x7b\"Success\":\x7b\x7d\x7d\x7d]\x7d\x7d"
    let exchange : Node.Exchange :=
      if (request.params.get "deploy_hash").text? = some "a" then
        .reply 200 reply.toUTF8.toList
      else .failed
    ((⟨0, exchange⟩ : Delayed Node.Exchange), s)
  | .draw, s => ((0 : UInt64), s)
  | .raised, s => (false, s)
  | .sleep _, s => (.elapsed, s)
  | .count _, s => ((), s)

theorem confirmations_reported_one_failed :
    ofArguments ["confirm", "a", "--max-polls=0", "b", "a"] = .ok threeReceipts ∧
    threeReceipts.settings (fun _ => .error .missing) (fun _ => none) = .ok .default ∧
    ∃ n dialogues ending log, ∃ results : List (Except DeliveryError Json),
      threeReceipts.plan (fun _ => .error .missing) (fun _ => none) =
        .ok (.sideBySide dialogues ending) ∧
      SideBySide dialogues log (results.map .done) ∧
      (ending results).status ≠ 0 ∧
      (ending results).failure?.map Failure.report =
        some (Text.quote "1 of 3 confirmations failed") ∧
      (∃ entries, (ending results).output? = some (.array entries) ∧
        entries.map tellsError = [false, true, false] ∧
        ∀ k receipt, [Receipt.mk "a", ⟨"b"⟩, ⟨"a"⟩][k]? = some receipt →
          ∃ entry result calls, entries[k]? = some entry ∧ Tells entry receipt result ∧
            Relay.queries calls = 1 ∧ Refines (Client.through n) calls (partOf k log)) := by
  have hargs : ofArguments ["confirm", "a", "--max-polls=0", "b", "a"] = .ok threeReceipts := by
    decide +kernel
  have hsettings : threeReceipts.settings (fun _ => .error .missing) (fun _ => none) =
      .ok .default := by
    decide +kernel
  obtain ⟨-, n, dialogues, ending, -, hplan, -, -, hends⟩ := confirmations_reported rfl hsettings
  obtain ⟨log, -, hlog⟩ :=
    sideBySide_of_yields_traverse
      (yields_transcript answerToOne (Dialogue.traverse id dialogues) ())
  have hending : ending ((Dialogue.traverse id dialogues).run answerToOne ()).1 =
      threeReceipts.ending (fun _ => .error .missing) (fun _ => none) answerToOne () := by
    rw [Invocation.ending, hplan]
    rfl
  have htells : ((threeReceipts.ending (fun _ => .error .missing) (fun _ => none)
      answerToOne ()).output?.bind fun v => v.items?.map (·.map tellsError)) =
        some [false, true, false] := by
    decide +kernel
  obtain ⟨entries, houtput, -, -, -, hentries, hstatus, hreport⟩ := hends log _ hlog
  rw [← hending, houtput] at htells
  have hmap : entries.map tellsError = [false, true, false] := Option.some.inj htells
  have hfailed : entries.countP tellsError = 1 := by
    rw [← Function.id_comp tellsError, ← List.countP_map, hmap]
    rfl
  rw [hfailed] at hreport
  have htext : toString 1 ++ " of " ++ toString 3 ++ " confirmations failed" =
      "1 of 3 confirmations failed" := by
    decide +kernel
  refine ⟨hargs, hsettings, n, dialogues, ending, log, _, hplan, hlog, hstatus.2 ?_,
    hreport.trans (congrArg (some ∘ Text.quote) htext), entries, houtput, hmap,
    fun k receipt hk => ?_⟩
  · exact List.countP_pos_iff.1 (hfailed ▸ Nat.one_pos)
  · obtain ⟨entry, result, calls, hentry, htold, hconfirmed⟩ := hentries k receipt hk
    exact ⟨entry, result, calls, hentry, htold,
      Nat.le_antisymm hconfirmed.queries_le hconfirmed.one_le_queries, hconfirmed.refines⟩

end Invocation
end CommandLine
end Courier
