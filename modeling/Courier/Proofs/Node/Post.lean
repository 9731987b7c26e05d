import Courier.Proofs.Node.Query
import Courier.Proofs.Node.Reply

/-!
What one request to an address comes to. Five things can happen to it: no reply or one that
refuses it, a reply that cannot be read, an error of the node, a result, or nothing in time.
-/
namespace Courier

namespace Delayed

variable {α : Type} {limit : Duration} {x : Delayed (Except TransportError α)}

theorem value_within_of_le (h : x.after ≤ limit.ceilMilliseconds) :
    (within limit x).value = x.value := by
  rw [within, if_pos h]

theorem value_within_of_lt (h : limit.ceilMilliseconds < x.after) :
    (within limit x).value = .error (.timeout limit) := by
  rw [within, if_neg (Nat.not_le_of_lt h)]

end Delayed

/-- A deadline of whole seconds is not put off to the end of a millisecond. -/
theorem Duration.ceilMilliseconds_ofSeconds (seconds : UInt64) :
    (ofSeconds seconds 0).ceilMilliseconds = 1000 * seconds.toNat := by
  have hzero : ((0 : Fin 1000000000) : Nat) = 0 := rfl
  simp only [ceilMilliseconds, ofSeconds, hzero]
  omega

namespace Node

/-- What an exchange that is over in time comes to. -/
inductive Exchange.ComesTo (url : Url) : Exchange → Except TransportError Json → Prop where
  | failed : ComesTo url .failed
      (.error (.http ("error sending request for url (" ++ url.withoutCredentials.toText ++ ")")))
  | refused {status : Nat} {body : List UInt8} (hstatus : isSuccess status = false) :
      ComesTo url (.reply status body)
        (.error (.http (url.toText ++ " returned status " ++ statusText status)))
  | unreadable {status : Nat} {body : List UInt8} (hstatus : isSuccess status = true)
      (hbody : ∀ w reply, Reply.Spells body w → ¬ Reply.Reads w reply) :
      ComesTo url (.reply status body) (.error (.malformed "error decoding response body"))
  | empty {status : Nat} {body : List UInt8} (hstatus : isSuccess status = true)
      (hbody : Reply.Told body none none) :
      ComesTo url (.reply status body)
        (.error (.malformed "response has neither result nor error"))
  | error {status : Nat} {body : List UInt8} {result : Option Json} {code : Int} {message : String}
      (hstatus : isSuccess status = true)
      (hbody : Reply.Told body result (some (code, message))) :
      ComesTo url (.reply status body) (.error (.rpc code message))
  | result {status : Nat} {body : List UInt8} {v : Json} (hstatus : isSuccess status = true)
      (hbody : Reply.Told body (some v) none) : ComesTo url (.reply status body) (.ok v)

theorem Exchange.result_eq_iff {url : Url} {x : Exchange} {r : Except TransportError Json} :
    x.result url = r ↔ x.ComesTo url r := by
  constructor
  · intro h
    subst h
    cases x with
    | failed => exact .failed
    | reply status body =>
      simp only [Exchange.result]
      by_cases hstatus : isSuccess status = true
      · rw [if_pos hstatus]
        rcases hbody : Reply.ofBody? body with _ | ⟨_ | v, _ | ⟨code, message⟩⟩
        · refine .unreadable hstatus fun w reply hw hreply => ?_
          rw [Reply.ofBody?_eq_some_iff.2 ⟨w, hw, hreply⟩] at hbody
          cases hbody
        · exact .empty hstatus (Reply.told_iff.2 hbody)
        · exact .error hstatus (Reply.told_iff.2 hbody)
        · exact .result hstatus (Reply.told_iff.2 hbody)
        · exact .error hstatus (Reply.told_iff.2 hbody)
      · rw [if_neg hstatus]
        exact .refused (Bool.eq_false_iff.2 hstatus)
  · intro h
    cases h with
    | failed => rfl
    | refused hstatus => simp [Exchange.result, hstatus]
    | @unreadable status body hstatus hbody =>
      have hnone : Reply.ofBody? body = none := by
        refine Option.eq_none_iff_forall_ne_some.2 fun reply hreply => ?_
        obtain ⟨w, hw, hreply⟩ := Reply.ofBody?_eq_some_iff.1 hreply
        exact hbody w reply hw hreply
      simp [Exchange.result, hstatus, hnone]
    | empty hstatus hbody | error hstatus hbody | result hstatus hbody =>
      simp [Exchange.result, hstatus, Reply.told_iff.1 hbody]

/-- What a request comes to by its exchange: the deadline decides first. -/
inductive Concludes (n : Node) (url : Url) (x : Delayed Exchange) :
    Except TransportError Json → Prop where
  | inTime {exchange : Exchange} {r : Except TransportError Json}
      (htime : x.after ≤ n.deadline.ceilMilliseconds) (hx : x.value = exchange)
      (hvalue : exchange.ComesTo url r) : Concludes n url x r
  | late (htime : n.deadline.ceilMilliseconds < x.after) :
      Concludes n url x (.error (.timeout n.deadline))

variable {n : Node} {url : Url} {method : String} {params : Json} {x : Delayed Exchange}

theorem concludes_iff {r : Except TransportError Json} :
    n.Concludes url x r ↔ (Delayed.within n.deadline ⟨x.after, x.value.result url⟩).value = r := by
  constructor
  · intro h
    cases h with
    | inTime htime hx hvalue =>
      rw [Delayed.value_within_of_le htime, hx]
      exact Exchange.result_eq_iff.2 hvalue
    | late htime => exact Delayed.value_within_of_lt htime
  · intro h
    subst h
    by_cases htime : x.after ≤ n.deadline.ceilMilliseconds
    · rw [Delayed.value_within_of_le htime]
      exact .inTime htime rfl (Exchange.result_eq_iff.1 rfl)
    · have hlate := Nat.lt_of_not_le htime
      rw [Delayed.value_within_of_lt hlate]
      exact .late hlate

/-- An address that can be asked is asked once. -/
theorem yields_post_iff (hurl : url.canBeAsked = true) {t : List Trip}
    {r : Except TransportError Json} :
    (n.post url method params).Yields t r ↔
      ∃ x, t = [⟨⟨url, method, params⟩, x⟩] ∧ n.Concludes url x r := by
  unfold post
  rw [if_pos hurl, Dialogue.yields_ask]
  constructor
  · intro h
    obtain ⟨x, rest, rfl, hrest⟩ := h
    obtain ⟨rfl, rfl⟩ := Dialogue.yields_done.1 hrest
    exact ⟨x, rfl, concludes_iff.2 rfl⟩
  · intro h
    obtain ⟨x, rfl, hx⟩ := h
    exact ⟨x, [], rfl, Dialogue.yields_done.2 ⟨rfl, (concludes_iff.1 hx).symm⟩⟩

theorem yields_post_singleton_iff (hurl : url.canBeAsked = true)
    {r : Except TransportError Json} :
    (n.post url method params).Yields [⟨⟨url, method, params⟩, x⟩] r ↔ n.Concludes url x r := by
  rw [yields_post_iff hurl]
  constructor
  · intro h
    obtain ⟨y, hy, hconcludes⟩ := h
    cases hy
    exact hconcludes
  · intro h
    exact ⟨x, rfl, h⟩

theorem concludes_ok_iff {v : Json} :
    n.Concludes url x (.ok v) ↔ x.after ≤ n.deadline.ceilMilliseconds ∧
      ∃ status body, x.value = .reply status body ∧ isSuccess status = true ∧ v ≠ .null ∧
        Reply.Told body (some v) none := by
  constructor
  · intro h
    cases h with
    | inTime htime hx hvalue =>
      cases hvalue with
      | result hstatus hbody => exact ⟨htime, _, _, hx, hstatus, hbody.ne_null, hbody⟩
  · intro h
    obtain ⟨htime, status, body, hx, hstatus, -, hbody⟩ := h
    exact .inTime htime hx (.result hstatus hbody)

theorem concludes_rpc_iff {code : Int} {message : String} :
    n.Concludes url x (.error (.rpc code message)) ↔ x.after ≤ n.deadline.ceilMilliseconds ∧
      ∃ status body result, x.value = .reply status body ∧ isSuccess status = true ∧
        Reply.Told body result (some (code, message)) := by
  constructor
  · intro h
    cases h with
    | inTime htime hx hvalue =>
      cases hvalue with
      | error hstatus hbody => exact ⟨htime, _, _, _, hx, hstatus, hbody⟩
  · intro h
    obtain ⟨htime, status, body, result, hx, hstatus, hbody⟩ := h
    exact .inTime htime hx (.error hstatus hbody)

theorem concludes_malformed_iff :
    (∃ detail, n.Concludes url x (.error (.malformed detail))) ↔
      x.after ≤ n.deadline.ceilMilliseconds ∧
        ∃ status body, x.value = .reply status body ∧ isSuccess status = true ∧
          ((∀ w, ¬ Reply.Spells body w) ∨
            (∃ w, Reply.Spells body w ∧ ∀ reply, ¬ Reply.Reads w reply) ∨
            Reply.Told body none none) := by
  constructor
  · intro h
    obtain ⟨detail, h⟩ := h
    cases h with
    | inTime htime hx hvalue =>
      cases hvalue with
      | @unreadable status body hstatus hbody =>
        refine ⟨htime, status, body, hx, hstatus, ?_⟩
        by_cases hspells : ∃ w, Reply.Spells body w
        · obtain ⟨w, hw⟩ := hspells
          exact .inr (.inl ⟨w, hw, fun reply => hbody w reply hw⟩)
        · exact .inl fun w hw => hspells ⟨w, hw⟩
      | empty hstatus hbody => exact ⟨htime, _, _, hx, hstatus, .inr (.inr hbody)⟩
  · intro h
    obtain ⟨htime, status, body, hx, hstatus, hnone | ⟨w, hw, hreads⟩ | hempty⟩ := h
    · have hbody : ∀ w reply, Reply.Spells body w → ¬ Reply.Reads w reply :=
        fun w _ hw => absurd hw (hnone w)
      exact ⟨_, .inTime htime hx (.unreadable hstatus hbody)⟩
    · have hbody : ∀ w reply, Reply.Spells body w → ¬ Reply.Reads w reply :=
        fun w' reply hw' => hw.unique hw' ▸ hreads reply
      exact ⟨_, .inTime htime hx (.unreadable hstatus hbody)⟩
    · exact ⟨_, .inTime htime hx (.empty hstatus hempty)⟩

theorem concludes_http_iff :
    (∃ detail, n.Concludes url x (.error (.http detail))) ↔
      x.after ≤ n.deadline.ceilMilliseconds ∧
        (x.value = .failed ∨
          ∃ status body, x.value = .reply status body ∧ isSuccess status = false) := by
  constructor
  · intro h
    obtain ⟨detail, h⟩ := h
    cases h with
    | inTime htime hx hvalue =>
      cases hvalue with
      | failed => exact ⟨htime, .inl hx⟩
      | refused hstatus => exact ⟨htime, .inr ⟨_, _, hx, hstatus⟩⟩
  · intro h
    obtain ⟨htime, hx | ⟨status, body, hx, hstatus⟩⟩ := h
    · exact ⟨_, .inTime htime hx .failed⟩
    · exact ⟨_, .inTime htime hx (.refused hstatus)⟩

theorem concludes_timeout_iff {limit : Duration} :
    n.Concludes url x (.error (.timeout limit)) ↔
      limit = n.deadline ∧ n.deadline.ceilMilliseconds < x.after := by
  constructor
  · intro h
    cases h with
    | inTime htime hx hvalue => cases hvalue
    | late htime => exact ⟨rfl, htime⟩
  · intro h
    obtain ⟨rfl, htime⟩ := h
    exact .late htime

/-- A request to an address that can be asked is one exchange, and what becomes of it depends on
this exchange alone. In time, a success gives its result if that is not `null` and no error is
told with it; an error that is told comes before any result; a body that spells no value, or no
reply, or a reply without both, is malformed; and no connection or a status other than success
counts as a failure of the connection, whatever the body. A reply with such a status is there with
its head. All that is later is a timeout, and a deadline of whole seconds is kept as it is. -/
theorem post_classified (n : Node) {url : Url} (hurl : url.canBeAsked = true) (method : String)
    (params : Json) :
    (∀ (t : List Trip) (r : Except TransportError Json), (n.post url method params).Yields t r →
      ∃ x, t = [⟨⟨url, method, params⟩, x⟩]) ∧
    (∀ x, ∃ r, (n.post url method params).Yields [⟨⟨url, method, params⟩, x⟩] r) ∧
    (∀ (x : Delayed Exchange) (v : Json),
      (n.post url method params).Yields [⟨⟨url, method, params⟩, x⟩] (.ok v) ↔
        x.after ≤ n.deadline.ceilMilliseconds ∧
          ∃ status body, x.value = .reply status body ∧ isSuccess status = true ∧ v ≠ .null ∧
            Reply.Told body (some v) none) ∧
    (∀ (x : Delayed Exchange) (code : Int) (message : String),
      (n.post url method params).Yields [⟨⟨url, method, params⟩, x⟩]
          (.error (.rpc code message)) ↔
        x.after ≤ n.deadline.ceilMilliseconds ∧
          ∃ status body result, x.value = .reply status body ∧ isSuccess status = true ∧
            Reply.Told body result (some (code, message))) ∧
    (∀ x : Delayed Exchange,
      (∃ detail, (n.post url method params).Yields [⟨⟨url, method, params⟩, x⟩]
          (.error (.malformed detail))) ↔
        x.after ≤ n.deadline.ceilMilliseconds ∧
          ∃ status body, x.value = .reply status body ∧ isSuccess status = true ∧
            ((∀ w, ¬ Reply.Spells body w) ∨
              (∃ w, Reply.Spells body w ∧ ∀ reply, ¬ Reply.Reads w reply) ∨
              Reply.Told body none none)) ∧
    (∀ x : Delayed Exchange,
      (∃ detail, (n.post url method params).Yields [⟨⟨url, method, params⟩, x⟩]
          (.error (.http detail))) ↔
        x.after ≤ n.deadline.ceilMilliseconds ∧
          (x.value = .failed ∨
            ∃ status body, x.value = .reply status body ∧ isSuccess status = false)) ∧
    (∀ (x : Delayed Exchange) (limit : Duration),
      (n.post url method params).Yields [⟨⟨url, method, params⟩, x⟩] (.error (.timeout limit)) ↔
        limit = n.deadline ∧ n.deadline.ceilMilliseconds < x.after) ∧
    ∀ seconds : UInt64, n.deadline = .ofSeconds seconds 0 →
      n.deadline.ceilMilliseconds = 1000 * seconds.toNat := by
  simp only [yields_post_singleton_iff hurl]
  refine ⟨fun t r h => ?_, fun x => ⟨_, concludes_iff.2 rfl⟩, fun x v => concludes_ok_iff,
    fun x code message => concludes_rpc_iff, fun x => concludes_malformed_iff,
    fun x => concludes_http_iff, fun x limit => concludes_timeout_iff, fun seconds hn => ?_⟩
  · obtain ⟨x, ht, -⟩ := (yields_post_iff hurl).1 h
    exact ⟨x, ht⟩
  · rw [hn, Duration.ceilMilliseconds_ofSeconds]

def errorBesideResult : String :=
  "\x7b\"result\":1,\"error\":\x7b\"code\":-32008,\"message\":\"invalid deploy\"\x7d\x7d"

def servedAfter (milliseconds : Nat) (text : String) : Delayed Exchange :=
  ⟨milliseconds, .reply 200 text.toUTF8.toList⟩

/-- An error beside a result, when the deadline falls and one millisecond later. -/
theorem post_classified_errorBesideResult :
    let asked := threeHosts.post (hostRoot "a") "info_get_status" (.object [])
    let post : Post := ⟨hostRoot "a", "info_get_status", .object []⟩
    (hostRoot "a").canBeAsked = true ∧
      asked.Yields [⟨post, servedAfter 30000 errorBesideResult⟩]
        (.error (.rpc (-32008) "invalid deploy")) ∧
      asked.Yields [⟨post, servedAfter 30001 errorBesideResult⟩]
        (.error (.timeout threeHosts.deadline)) ∧
      threeHosts.deadline.ceilMilliseconds = 30000 := by
  intro asked post
  have hurl : (hostRoot "a").canBeAsked = true := by decide +kernel
  obtain ⟨-, -, -, hrpc, -, -, htimeout, hseconds⟩ :=
    post_classified threeHosts hurl "info_get_status" (.object [])
  have hdeadline : threeHosts.deadline = .ofSeconds 30 0 := by decide
  obtain ⟨reply, hbody, herror⟩ : ∃ r, Reply.ofBody? errorBesideResult.toUTF8.toList = some r ∧
      (r.error == some (-32008, "invalid deploy")) = true :=
    Reply.exists_ofBody?_of_text (by decide +kernel)
  have htold : Reply.Told errorBesideResult.toUTF8.toList reply.result reply.error :=
    Reply.told_iff.2 hbody
  rw [beq_iff_eq.1 herror] at htold
  exact ⟨hurl, (hrpc _ _ _).2 ⟨by decide, 200, _, _, rfl, rfl, htold⟩,
    (htimeout _ _).2 ⟨rfl, by decide⟩, hseconds 30 hdeadline⟩

end Node
end Courier
