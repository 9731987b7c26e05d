import Courier.CommandLine.Plan
import Courier.Proofs.AttemptBudget
import Courier.Proofs.Config.Validation

/-!
What is built from settings that were loaded: the node with all its addresses, the contracts, the
address for metrics and the policies of the relay.
-/
namespace Courier

theorem map_ok_filterMap_toOption {α β ε : Type} {f : α → Except ε β} {l : List α}
    (h : ∀ a ∈ l, ∃ b, f a = .ok b) :
    (l.filterMap fun a => (f a).toOption).map .ok = l.map f := by
  induction l with
  | nil => rfl
  | cons a l ih =>
    obtain ⟨b, hb⟩ := h a List.mem_cons_self
    have hrest := ih fun a' ha' => h a' (List.mem_cons_of_mem a ha')
    have hsome : (f a).toOption = some b := by rw [hb]; rfl
    rw [List.filterMap_cons, hsome]
    simp only [List.map_cons, hb, hrest]

/-- Where all addresses can be read, the node has them all, in their order. -/
theorem Node.ofSettings_of_readable {s : NodeSettings}
    (h : ∀ text ∈ s.rpcUrl :: s.failoverUrls, ∃ url, Url.ofText text = .ok url) :
    ∃ n, ofSettings s = .ok n ∧
      n.endpoints.map .ok = (s.rpcUrl :: s.failoverUrls).map Url.ofText ∧
      n.chainName = s.chainName ∧ n.deadline = s.rpcTimeout := by
  obtain ⟨hprimary, hfailovers⟩ := List.forall_mem_cons.1 h
  obtain ⟨primary, hprimary⟩ := hprimary
  refine ⟨_, by unfold ofSettings; rw [hprimary], ?_, rfl, rfl⟩
  rw [endpoints, List.map_cons, List.map_cons, hprimary, map_ok_filterMap_toOption hfailovers]

namespace CommandLine

/-- A listed contract is found by its name, whether it is asked for or the usual one. -/
theorem findContract_of_contract? {c : Config} {name text : String} {hash : ContractHash}
    (hlisted : c.contract? name = some text) (hhash : ContractHash.ofText text = .ok hash) :
    (∀ family, findContract c family (some name) = .ok hash) ∧
      findContract c name none = .ok hash := by
  constructor
  · intro family
    simp [findContract, hlisted, hhash, Except.mapError]
  · simp [findContract, hlisted, hhash, Except.mapError]

end CommandLine

/-- A limit above zero is kept as it is. -/
theorem AttemptBudget.limit_ofLimit {limit : UInt32} (h : limit ≠ 0) :
    (ofLimit limit).limit = limit :=
  if_neg h

namespace Config

/-- Everything that is built from the settings comes about, and no setting is lost on the way. -/
structure Serves (c : Config) : Prop where
  node : ∃ n, Node.ofSettings c.node = .ok n ∧
    n.endpoints.map .ok = (c.node.rpcUrl :: c.node.failoverUrls).map Url.ofText ∧
    n.chainName = c.node.chainName ∧ n.deadline = c.node.rpcTimeout
  contracts : ∀ e ∈ c.contracts.entries, ∃ hash, ContractHash.ofText e.2 = .ok hash ∧
    (∀ family, CommandLine.findContract c family (some e.1) = .ok hash) ∧
    CommandLine.findContract c e.1 none = .ok hash
  metricsAddress : ∀ text, c.observability.metricsAddress = some text →
    ∃ address, SocketAddress.ofText? text = some address
  submissions : (RelayPolicies.ofConfig c).submit.maxAttempts = c.submit.maxAttempts ∧
    1 ≤ c.submit.maxAttempts ∧
    (AttemptBudget.ofLimit c.submit.maxAttempts).limit = c.submit.maxAttempts
  polls : (RelayPolicies.ofConfig c).poll.maxPolls = c.confirm.maxPolls ∧
    1 ≤ c.confirm.maxPolls ∧
    (AttemptBudget.ofLimit c.confirm.maxPolls).limit = c.confirm.maxPolls

theorem one_le_of_ne_zero {n : UInt32} (h : n ≠ 0) : 1 ≤ n := by
  have hne : n.toNat ≠ 0 := fun h0 => h (UInt32.toNat_inj.1 h0)
  exact UInt32.le_iff_toNat_le.2 (Nat.one_le_iff_ne_zero.2 hne)

/-- Settings that were loaded, from any file or none and under any environment, serve for all that
is built from them. -/
theorem load_serves {file : Option (Except ReadError (List UInt8))}
    {lookup : String → Option String} {c : Config} (h : load file lookup = .ok c) : c.Serves := by
  obtain ⟨-, -, -, hvalid⟩ := load_eq_ok_iff.1 h
  refine ⟨?_, ?_, hvalid.metricsAddress, ?_, ?_⟩
  · refine Node.ofSettings_of_readable fun text htext => ?_
    obtain ⟨url, hurl, -⟩ := hvalid.addresses text htext
    exact ⟨url, hurl⟩
  · intro e he
    obtain ⟨hash, hhash⟩ := hvalid.contracts e he
    have hlisted := NameTable.get?_eq_some_of_mem he
    exact ⟨hash, hhash, CommandLine.findContract_of_contract? hlisted hhash⟩
  · exact ⟨rfl, one_le_of_ne_zero hvalid.maxAttempts,
      AttemptBudget.limit_ofLimit hvalid.maxAttempts⟩
  · exact ⟨rfl, one_le_of_ne_zero hvalid.maxPolls, AttemptBudget.limit_ofLimit hvalid.maxPolls⟩

/-- A settings file with failover addresses, a contract and an address for metrics. -/
def sampleText : String :=
  "[node]\nfailover_urls = ['http://b', 'https://c:8']\n" ++
  "[contracts]\ntoken = '7faeeb6f5facec8d4dc79a7d313215e1cd53ea878ff8d2100176ee703e8a237c'\n" ++
  "[observability]\nmetrics_address = '127.0.0.1:9090'\n"

/-- The settings of that file where the environment sets the payment. -/
def sample : Config :=
  { Config.default with
    node.failoverUrls := ["http://b", "https://c:8"]
    deploy.paymentAmount := 7
    contracts := .ofList
      [("token", "7faeeb6f5facec8d4dc79a7d313215e1cd53ea878ff8d2100176ee703e8a237c")]
    observability.metricsAddress := some "127.0.0.1:9090" }

theorem load_serves_sample :
    load (some (.ok sampleText.toUTF8.toList))
        (fun name => if name = Environment.paymentAmount then some " 7 " else none) = .ok sample ∧
      sample.Serves := by
  have hfile : ofFile (some (.ok sampleText.toUTF8.toList)) =
      .ok { sample with deploy := .default } := by
    rw [ofFile_toUTF8]
    decide +kernel
  have hload : load (some (.ok sampleText.toUTF8.toList))
      (fun name => if name = Environment.paymentAmount then some " 7 " else none) =
        .ok sample :=
    load_eq_ok_iff.2 ⟨_, hfile, rfl, problems_eq_nil_iff.1 (by decide +kernel)⟩
  exact ⟨hload, load_serves hload⟩

end Config
end Courier
