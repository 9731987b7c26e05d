import Courier.Config.Load
import Courier.Proofs.Text
import Mathlib.Data.List.Basic

/-!
The rules for settings. No error is reported exactly when all of them are kept, and settings are
loaded only then.
-/
namespace Courier.Config

structure Valid (c : Config) : Prop where
  addresses : ∀ text ∈ c.node.rpcUrl :: c.node.failoverUrls,
    ∃ url, Url.ofText text = .ok url ∧ url.isHttp = true
  chainName : Text.trim c.node.chainName.toList ≠ []
  rpcTimeoutSecs : c.node.rpcTimeoutSecs ≠ 0
  maxAttempts : c.submit.maxAttempts ≠ 0
  jitterRatio : c.submit.jitterRatio.inUnit = true
  maxPolls : c.confirm.maxPolls ≠ 0
  paymentAmount : c.deploy.paymentAmount ≠ 0
  ttlMs : c.deploy.ttlMs ≠ 0
  contracts : ∀ e ∈ c.contracts.entries, ∃ hash, ContractHash.ofText e.2 = .ok hash
  metricsAddress : ∀ text, c.observability.metricsAddress = some text →
    ∃ address, SocketAddress.ofText? text = some address

theorem check_eq_nil_iff {field : String} {problem : Option String} :
    check field problem = [] ↔ problem = none := by
  cases problem <;> simp [check]

theorem require_eq_nil_iff {field message : String} {holds : Bool} :
    require field holds message = [] ↔ holds = true := by
  cases holds <;> simp [require, check]

theorem urlProblem?_eq_none_iff {text : String} :
    urlProblem? text = none ↔ ∃ url, Url.ofText text = .ok url ∧ url.isHttp = true := by
  unfold urlProblem?
  cases Url.ofText text with
  | error e => simp
  | ok url => simp

theorem hashProblem?_eq_none_iff {text : String} :
    hashProblem? text = none ↔ ∃ hash, ContractHash.ofText text = .ok hash := by
  unfold hashProblem?
  cases ContractHash.ofText text <;> simp

theorem addressProblem?_eq_none_iff {text : String} :
    addressProblem? text = none ↔ ∃ address, SocketAddress.ofText? text = some address := by
  unfold addressProblem?
  cases SocketAddress.ofText? text <;> simp

theorem forall_mem_zipIdx_iff {α : Type} {l : List α} {p : α → Prop} :
    (∀ a i, (a, i) ∈ l.zipIdx → p a) ↔ ∀ a ∈ l, p a := by
  constructor
  · intro hall a ha
    obtain ⟨i, hi, rfl⟩ := List.mem_iff_getElem.1 ha
    exact hall l[i] i (List.mk_mem_zipIdx_iff_getElem?.2 (List.getElem?_eq_getElem hi))
  · intro hall a i hmem
    exact hall a (List.fst_mem_of_mem_zipIdx hmem)

theorem problems_eq_nil_iff {c : Config} : c.problems = [] ↔ c.Valid := by
  have hmetrics : c.observability.metricsAddress.bind addressProblem? = none ↔
      ∀ text, c.observability.metricsAddress = some text →
        ∃ address, SocketAddress.ofText? text = some address := by
    rw [Option.bind_eq_none_iff]
    simp only [addressProblem?_eq_none_iff]
  unfold problems
  simp only [List.append_eq_nil_iff, List.flatMap_eq_nil_iff, Prod.forall, check_eq_nil_iff,
    require_eq_nil_iff, urlProblem?_eq_none_iff, hashProblem?_eq_none_iff, hmetrics,
    forall_mem_zipIdx_iff]
  constructor
  · rintro ⟨⟨⟨⟨⟨⟨⟨⟨⟨⟨hurl, hurls⟩, hchain⟩, htimeout⟩, hattempts⟩, hjitter⟩, hpolls⟩, hpayment⟩,
      httl⟩, hhashes⟩, haddress⟩
    exact {
      addresses := List.forall_mem_cons.2 ⟨hurl, hurls⟩
      chainName := by simpa using hchain
      rpcTimeoutSecs := by simpa using htimeout
      maxAttempts := by simpa using hattempts
      jitterRatio := hjitter
      maxPolls := by simpa using hpolls
      paymentAmount := by simpa using hpayment
      ttlMs := by simpa using httl
      contracts := fun e he => hhashes e.1 e.2 he
      metricsAddress := haddress }
  · intro h
    obtain ⟨hurl, hurls⟩ := List.forall_mem_cons.1 h.addresses
    exact ⟨⟨⟨⟨⟨⟨⟨⟨⟨⟨hurl, hurls⟩, by simpa using h.chainName⟩, by simpa using h.rpcTimeoutSecs⟩,
      by simpa using h.maxAttempts⟩, h.jitterRatio⟩, by simpa using h.maxPolls⟩,
      by simpa using h.paymentAmount⟩, by simpa using h.ttlMs⟩, fun name hash hmem =>
        h.contracts (name, hash) hmem⟩, h.metricsAddress⟩

/-- A file that holds a text gives the settings of the text. -/
theorem ofFile_toUTF8 (text : String) :
    ofFile (some (.ok text.toUTF8.toList)) = (ofText? text).elim (.error .malformed) .ok := by
  unfold ofFile
  dsimp only
  rw [Text.fromUTF8?_toUTF8]

/-- Settings are loaded when the file gives some, the variables can be read, and the outcome keeps
all rules. -/
theorem load_eq_ok_iff {file : Option (Except ReadError (List UInt8))}
    {lookup : String → Option String} {c : Config} :
    load file lookup = .ok c ↔
      ∃ c₀, ofFile file = .ok c₀ ∧ Environment.apply lookup c₀ = (c, none) ∧ c.Valid := by
  unfold load
  cases ofFile file with
  | error e => simp
  | ok c₀ =>
    simp only [Except.ok.injEq, exists_eq_left']
    cases happly : Environment.apply lookup c₀ with
    | mk c₁ bad? =>
      cases bad? with
      | some bad => simp
      | none =>
        simp only [Prod.mk.injEq, and_true]
        constructor
        · intro h
          split at h
          case isTrue hempty =>
            cases h
            exact ⟨rfl, problems_eq_nil_iff.1 (List.isEmpty_iff.1 hempty)⟩
          case isFalse => cases h
        · rintro ⟨rfl, hvalid⟩
          rw [if_pos (List.isEmpty_iff.2 (problems_eq_nil_iff.2 hvalid))]

end Courier.Config
