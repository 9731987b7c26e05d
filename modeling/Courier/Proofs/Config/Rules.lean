import Courier.Proofs.Config.Setting
import Courier.Proofs.Config.Validation
import Mathlib.Data.List.Sort

/-!
The rules for settings, one by one. Every broken rule has one error, the errors stand in the order
of the rules, and no rule depends on the setting of another.
-/
namespace Courier

theorem Double.inUnit_eq_false_iff {x : Double} :
    x.inUnit = false ↔ x = .nan ∨ lt x 0 = true ∨ lt 1 x = true := by
  by_cases hnan : x = .nan
  · subst hnan
    simp [inUnit]
  · have hbounds : x.inUnit = (!lt x 0 && !lt 1 x) := by
      cases x with
      | nan => exact absurd rfl hnan
      | _ => rfl
    rw [hbounds, Bool.and_eq_false_iff, Bool.not_eq_false', Bool.not_eq_false']
    simp only [hnan, false_or]

namespace Config

/-- No node can be asked at this address, and why. -/
inductive BadAddress (text : String) : String → Prop where
  | unreadable {e : Url.Error} (h : Url.ofText text = .error e) :
      BadAddress text ("invalid URL '" ++ text ++ "': " ++ e.message)
  | scheme {url : Url} (h : Url.ofText text = .ok url) (hhttp : url.scheme ≠ "http")
      (hhttps : url.scheme ≠ "https") :
      BadAddress text ("unsupported scheme '" ++ url.scheme ++ "'")

/-- A setting breaks its rule, which is told in these words. -/
inductive Breaks (c : Config) : Setting → String → Prop where
  | rpcUrl {m : String} (h : BadAddress c.node.rpcUrl m) : Breaks c .rpcUrl m
  | failoverUrl {i : Nat} {text m : String} (hat : c.node.failoverUrls[i]? = some text)
      (h : BadAddress text m) : Breaks c (.failoverUrl i) m
  | chainName (h : ∀ ch ∈ c.node.chainName.toList, Text.isBlank ch = true) :
      Breaks c .chainName "must not be empty"
  | rpcTimeoutSecs (h : c.node.rpcTimeoutSecs = 0) :
      Breaks c .rpcTimeoutSecs "must be greater than 0"
  | maxAttempts (h : c.submit.maxAttempts = 0) : Breaks c .maxAttempts "must be at least 1"
  | jitterRatio (h : c.submit.jitterRatio = .nan ∨ Double.lt c.submit.jitterRatio 0 = true ∨
      Double.lt 1 c.submit.jitterRatio = true) :
      Breaks c .jitterRatio "must be between 0.0 and 1.0"
  | maxPolls (h : c.confirm.maxPolls = 0) : Breaks c .maxPolls "must be at least 1"
  | paymentAmount (h : c.deploy.paymentAmount = 0) :
      Breaks c .paymentAmount "must be greater than 0"
  | ttlMs (h : c.deploy.ttlMs = 0) : Breaks c .ttlMs "must be greater than 0"
  | contract {name text : String} {e : ArgumentError} (hlisted : c.contract? name = some text)
      (h : ContractHash.ofText text = .error e) : Breaks c (.contract name) e.message
  | metricsAddress {text : String} (hset : c.observability.metricsAddress = some text)
      (h : SocketAddress.ofText? text = none) :
      Breaks c .metricsAddress ("'" ++ text ++ "' is not a socket address")

def refusal (holds : Bool) (message : String) : Option String :=
  if holds then none else some message

def problem? (c : Config) : Setting → Option String
  | .rpcUrl => urlProblem? c.node.rpcUrl
  | .failoverUrl i => c.node.failoverUrls[i]?.bind urlProblem?
  | .chainName => refusal (!(Text.trim c.node.chainName.toList).isEmpty) "must not be empty"
  | .rpcTimeoutSecs => refusal (c.node.rpcTimeoutSecs != 0) "must be greater than 0"
  | .maxAttempts => refusal (c.submit.maxAttempts != 0) "must be at least 1"
  | .jitterRatio => refusal c.submit.jitterRatio.inUnit "must be between 0.0 and 1.0"
  | .maxPolls => refusal (c.confirm.maxPolls != 0) "must be at least 1"
  | .paymentAmount => refusal (c.deploy.paymentAmount != 0) "must be greater than 0"
  | .ttlMs => refusal (c.deploy.ttlMs != 0) "must be greater than 0"
  | .contract name => (c.contract? name).bind hashProblem?
  | .metricsAddress => c.observability.metricsAddress.bind addressProblem?

/-- The settings that are there, in the order in which they are checked. -/
def settings (c : Config) : List Setting :=
  .rpcUrl :: (c.node.failoverUrls.zipIdx.map fun e => .failoverUrl e.2) ++
    [.chainName, .rpcTimeoutSecs, .maxAttempts, .jitterRatio, .maxPolls, .paymentAmount, .ttlMs] ++
    (c.contracts.entries.map fun e => .contract e.1) ++ [.metricsAddress]

theorem urlProblem?_eq_some_iff {text m : String} :
    urlProblem? text = some m ↔ BadAddress text m := by
  unfold urlProblem?
  constructor
  · intro h
    split at h
    case h_1 url hurl =>
      rw [Option.ite_none_left_eq_some, Option.some.injEq] at h
      obtain ⟨hhttp, rfl⟩ := h
      have hschemes : url.scheme ≠ "http" ∧ url.scheme ≠ "https" := by
        simpa [Url.isHttp] using hhttp
      exact .scheme hurl hschemes.1 hschemes.2
    case h_2 e he =>
      rw [Option.some.injEq] at h
      exact h ▸ .unreadable he
  · intro h
    cases h with
    | unreadable he => rw [he]
    | scheme hurl hhttp hhttps =>
      rw [hurl]
      exact if_neg (by simp [Url.isHttp, hhttp, hhttps])

theorem hashProblem?_eq_some_iff {text m : String} :
    hashProblem? text = some m ↔ ∃ e, ContractHash.ofText text = .error e ∧ m = e.message := by
  unfold hashProblem?
  cases ContractHash.ofText text with
  | ok hash => simp
  | error e => simp [eq_comm]

theorem addressProblem?_eq_some_iff {text m : String} :
    addressProblem? text = some m ↔
      SocketAddress.ofText? text = none ∧ m = "'" ++ text ++ "' is not a socket address" := by
  unfold addressProblem?
  cases SocketAddress.ofText? text with
  | none => simp [eq_comm]
  | some address => simp

theorem refusal_eq_some_iff {holds : Bool} {message m : String} :
    refusal holds message = some m ↔ holds = false ∧ m = message := by
  cases holds <;> simp [refusal, eq_comm]

theorem refusal_ne_zero_eq_some_iff {α : Type} [DecidableEq α] [OfNat α 0] {n : α}
    {message m : String} : refusal (n != 0) message = some m ↔ n = 0 ∧ m = message := by
  rw [refusal_eq_some_iff, bne_eq_false_iff_eq]

theorem problem?_eq_some_iff {c : Config} {s : Setting} {m : String} :
    c.problem? s = some m ↔ c.Breaks s m := by
  constructor
  · intro h
    cases s with
    | rpcUrl => exact .rpcUrl (urlProblem?_eq_some_iff.1 h)
    | failoverUrl i =>
      obtain ⟨text, hat, htext⟩ := Option.bind_eq_some_iff.1 h
      exact .failoverUrl hat (urlProblem?_eq_some_iff.1 htext)
    | chainName =>
      obtain ⟨hempty, rfl⟩ := refusal_eq_some_iff.1 h
      exact .chainName (Text.trim_eq_nil_iff.1 (by simpa using hempty))
    | rpcTimeoutSecs =>
      obtain ⟨hzero, rfl⟩ := refusal_ne_zero_eq_some_iff.1 h
      exact .rpcTimeoutSecs hzero
    | maxAttempts =>
      obtain ⟨hzero, rfl⟩ := refusal_ne_zero_eq_some_iff.1 h
      exact .maxAttempts hzero
    | jitterRatio =>
      obtain ⟨hunit, rfl⟩ := refusal_eq_some_iff.1 h
      exact .jitterRatio (Double.inUnit_eq_false_iff.1 hunit)
    | maxPolls =>
      obtain ⟨hzero, rfl⟩ := refusal_ne_zero_eq_some_iff.1 h
      exact .maxPolls hzero
    | paymentAmount =>
      obtain ⟨hzero, rfl⟩ := refusal_ne_zero_eq_some_iff.1 h
      exact .paymentAmount hzero
    | ttlMs =>
      obtain ⟨hzero, rfl⟩ := refusal_ne_zero_eq_some_iff.1 h
      exact .ttlMs hzero
    | contract name =>
      obtain ⟨text, hlisted, htext⟩ := Option.bind_eq_some_iff.1 h
      obtain ⟨e, he, rfl⟩ := hashProblem?_eq_some_iff.1 htext
      exact .contract hlisted he
    | metricsAddress =>
      obtain ⟨text, hset, htext⟩ := Option.bind_eq_some_iff.1 h
      obtain ⟨hnone, rfl⟩ := addressProblem?_eq_some_iff.1 htext
      exact .metricsAddress hset hnone
  · intro h
    cases h with
    | rpcUrl h => exact urlProblem?_eq_some_iff.2 h
    | failoverUrl hat h => exact Option.bind_eq_some_iff.2 ⟨_, hat, urlProblem?_eq_some_iff.2 h⟩
    | chainName h =>
      refine refusal_eq_some_iff.2 ⟨?_, rfl⟩
      simpa using Text.trim_eq_nil_iff.2 h
    | rpcTimeoutSecs h => exact refusal_ne_zero_eq_some_iff.2 ⟨h, rfl⟩
    | maxAttempts h => exact refusal_ne_zero_eq_some_iff.2 ⟨h, rfl⟩
    | jitterRatio h => exact refusal_eq_some_iff.2 ⟨Double.inUnit_eq_false_iff.2 h, rfl⟩
    | maxPolls h => exact refusal_ne_zero_eq_some_iff.2 ⟨h, rfl⟩
    | paymentAmount h => exact refusal_ne_zero_eq_some_iff.2 ⟨h, rfl⟩
    | ttlMs h => exact refusal_ne_zero_eq_some_iff.2 ⟨h, rfl⟩
    | contract hlisted h =>
      exact Option.bind_eq_some_iff.2 ⟨_, hlisted, hashProblem?_eq_some_iff.2 ⟨_, h, rfl⟩⟩
    | metricsAddress hset h =>
      exact Option.bind_eq_some_iff.2 ⟨_, hset, addressProblem?_eq_some_iff.2 ⟨h, rfl⟩⟩

theorem settings_pairwise (c : Config) :
    c.settings.Pairwise fun s t => s.place < t.place := by
  have haddresses : (c.node.failoverUrls.zipIdx.map fun e => Setting.failoverUrl e.2).Pairwise
      fun s t => s.place < t.place := by
    have hindexes := List.pairwise_map.1
      (List.zipIdx_map_snd 0 c.node.failoverUrls ▸ List.pairwise_lt_range')
    refine List.pairwise_map.2 (hindexes.imp fun hlt => ?_)
    simp [Setting.place, Prod.Lex.toLex_lt_toLex, hlt]
  have hnames : (c.contracts.entries.map fun e => Setting.contract e.1).Pairwise
      fun s t => s.place < t.place := by
    refine List.pairwise_map.2 (c.contracts.ascending.imp fun hlt => ?_)
    simp [Setting.place, Prod.Lex.toLex_lt_toLex, hlt]
  unfold settings
  simp only [List.cons_append, List.nil_append, List.append_assoc, List.pairwise_cons,
    List.pairwise_append, List.forall_mem_cons, List.forall_mem_append, List.forall_mem_map,
    haddresses, hnames, true_and]
  simp [Setting.place, Prod.Lex.toLex_lt_toLex]

/-- The broken rules with what is told of them. -/
def faults (c : Config) : List (Setting × String) :=
  c.settings.filterMap fun s => (c.problem? s).map fun m => (s, m)

theorem faults_pairwise (c : Config) :
    c.faults.Pairwise fun f g => f.1.place < g.1.place := by
  refine List.pairwise_filterMap.2 ((settings_pairwise c).imp fun hlt f hf g hg => ?_)
  obtain ⟨m, -, rfl⟩ := Option.map_eq_some_iff.1 hf
  obtain ⟨m', -, rfl⟩ := Option.map_eq_some_iff.1 hg
  exact hlt

theorem mem_settings_of_breaks {c : Config} {s : Setting} {m : String} (h : c.Breaks s m) :
    s ∈ c.settings := by
  cases h with
  | failoverUrl hat h =>
    have hmem := List.mk_mem_zipIdx_iff_getElem?.2 hat
    have haddress := List.mem_map_of_mem (f := fun e => Setting.failoverUrl e.2) hmem
    simp only [settings, List.mem_append, List.mem_cons, haddress, true_or, or_true]
  | contract hlisted h =>
    obtain ⟨e, he, -⟩ := Option.map_eq_some_iff.1 hlisted
    have hname := List.mem_map_of_mem (f := fun e => Setting.contract e.1)
      (List.mem_of_find?_eq_some he)
    have hfound := List.find?_some he
    rw [eq_of_beq hfound] at hname
    simp only [settings, List.mem_append, List.mem_cons, hname, true_or, or_true]
  | _ => simp [settings]

theorem mem_faults_iff {c : Config} {f : Setting × String} :
    f ∈ c.faults ↔ c.Breaks f.1 f.2 := by
  unfold faults
  rw [List.mem_filterMap]
  constructor
  · intro h
    obtain ⟨s, -, hs⟩ := h
    obtain ⟨m, hm, rfl⟩ := Option.map_eq_some_iff.1 hs
    exact problem?_eq_some_iff.1 hm
  · intro h
    exact ⟨f.1, mem_settings_of_breaks h, by rw [problem?_eq_some_iff.2 h]; rfl⟩

/-- The errors are those of the broken rules. -/
theorem problems_eq_map_faults (c : Config) :
    c.problems = c.faults.map fun f => ⟨f.1.path, f.2⟩ := by
  have haddresses : (c.node.failoverUrls.zipIdx.flatMap fun e =>
      check ("node.failover_urls[" ++ toString e.2 ++ "]") (urlProblem? e.1)) =
        c.node.failoverUrls.zipIdx.flatMap fun e =>
          check (Setting.failoverUrl e.2).path (c.problem? (.failoverUrl e.2)) := by
    refine List.flatMap_congr fun e he => ?_
    have hat : c.node.failoverUrls[e.2]? = some e.1 := List.mk_mem_zipIdx_iff_getElem?.1 he
    simp only [problem?, hat, Option.bind_some]
    rfl
  have hcontracts : (c.contracts.entries.flatMap fun e =>
      check ("contracts." ++ e.1) (hashProblem? e.2)) =
        c.contracts.entries.flatMap fun e =>
          check (Setting.contract e.1).path (c.problem? (.contract e.1)) := by
    refine List.flatMap_congr fun e he => ?_
    simp only [problem?, contract?, NameTable.get?_eq_some_of_mem he, Option.bind_some]
    rfl
  have hsettings : c.problems = c.settings.flatMap fun s => check s.path (c.problem? s) := by
    unfold problems settings
    rw [haddresses, hcontracts]
    simp only [List.flatMap_append, List.flatMap_cons, List.flatMap_map, List.flatMap_nil,
      List.append_assoc, List.append_nil]
    rfl
  rw [hsettings, faults, List.map_filterMap, List.filterMap_eq_flatMap_toList]
  refine List.flatMap_congr fun s _ => ?_
  rw [Option.map_map]
  rfl

def Agree (c d : Config) : Setting → Prop
  | .rpcUrl => c.node.rpcUrl = d.node.rpcUrl
  | .failoverUrl i => c.node.failoverUrls[i]? = d.node.failoverUrls[i]?
  | .chainName => c.node.chainName = d.node.chainName
  | .rpcTimeoutSecs => c.node.rpcTimeoutSecs = d.node.rpcTimeoutSecs
  | .maxAttempts => c.submit.maxAttempts = d.submit.maxAttempts
  | .jitterRatio => c.submit.jitterRatio = d.submit.jitterRatio
  | .maxPolls => c.confirm.maxPolls = d.confirm.maxPolls
  | .paymentAmount => c.deploy.paymentAmount = d.deploy.paymentAmount
  | .ttlMs => c.deploy.ttlMs = d.deploy.ttlMs
  | .contract name => c.contract? name = d.contract? name
  | .metricsAddress => c.observability.metricsAddress = d.observability.metricsAddress

theorem problem?_congr {c d : Config} {s : Setting} (h : c.Agree d s) :
    c.problem? s = d.problem? s := by
  unfold Agree at h
  cases s <;> simp only [problem?, h]

/-- The errors that are left when those of some settings are removed. -/
def without (changed : List Setting) (problems : List SettingError) : List SettingError :=
  problems.filter fun e => e.field ∉ changed.map Setting.path

theorem without_problems (c : Config) (changed : List Setting) :
    without changed c.problems =
      (c.faults.filter fun f => f.1 ∉ changed).map fun f => ⟨f.1.path, f.2⟩ := by
  unfold without
  rw [problems_eq_map_faults c, List.filter_map]
  congr 1
  refine List.filter_congr fun f _ => ?_
  simp only [Function.comp_apply, List.mem_map_of_injective Setting.path_injective]

/-- The other settings have the same errors whatever becomes of some settings. -/
theorem without_problems_congr {c d : Config} {changed : List Setting}
    (h : ∀ s ∉ changed, c.Agree d s) : without changed c.problems = without changed d.problems := by
  rw [without_problems, without_problems]
  congr 1
  -- Both lists are in the order of the rules, so it is enough that they hold the same faults.
  have hc' := (faults_pairwise c).filter fun f => f.1 ∉ changed
  have hd' := (faults_pairwise d).filter fun f => f.1 ∉ changed
  have hirrefl : Std.Irrefl fun f g : Setting × String => f.1.place < g.1.place :=
    ⟨fun f => lt_irrefl f.1.place⟩
  have hantisymm : Std.Antisymm fun f g : Setting × String => f.1.place < g.1.place :=
    ⟨fun f g hfg hgf => absurd hgf (lt_asymm hfg)⟩
  refine hc'.eq_of_mem_iff hd' fun f => ?_
  simp only [List.mem_filter, decide_eq_true_eq]
  refine and_congr_left fun hf => ?_
  rw [mem_faults_iff, mem_faults_iff, ← problem?_eq_some_iff, ← problem?_eq_some_iff,
    problem?_congr (h f.1 hf)]

theorem nodup_fields (c : Config) :
    (c.problems.map SettingError.field).Nodup := by
  have hfields : c.problems.map SettingError.field = (c.faults.map Prod.fst).map Setting.path := by
    rw [problems_eq_map_faults c, List.map_map, List.map_map]
    rfl
  have hsettings : (c.faults.map Prod.fst).Nodup := by
    refine List.pairwise_map.2 ((faults_pairwise c).imp fun hlt heq => ?_)
    rw [heq] at hlt
    exact lt_irrefl _ hlt
  rw [hfields]
  exact hsettings.map Setting.path_injective

/-- Every broken rule has one error and nothing else has one. The errors stand in the order of the
rules, and no rule depends on the settings of others. -/
theorem problems_tell_rules (c : Config) :
    (c.problems = [] ↔ ∀ s m, ¬ c.Breaks s m) ∧
    (∃ faults : List (Setting × String),
      c.problems = faults.map (fun f => ⟨f.1.path, f.2⟩) ∧
      (faults.Pairwise fun f g => f.1.place < g.1.place) ∧
      ∀ s m, (s, m) ∈ faults ↔ c.Breaks s m) ∧
    (c.problems.map SettingError.field).Nodup ∧
    ∀ (d : Config) (changed : List Setting),
      (∀ s ∉ changed, c.Agree d s) → without changed c.problems = without changed d.problems := by
  refine ⟨?_, ⟨c.faults, problems_eq_map_faults c, faults_pairwise c, fun s m => mem_faults_iff⟩,
    nodup_fields c, fun d changed h => without_problems_congr h⟩
  rw [problems_eq_map_faults c, List.map_eq_nil_iff, List.eq_nil_iff_forall_not_mem]
  simp only [Prod.forall, mem_faults_iff]

/-- Settings without attempts, and with two hashes that cannot be read. -/
def faulty : Config :=
  { Config.default with
    submit.maxAttempts := 0
    contracts := .ofList [("market", "x"), ("token", "")] }

theorem problems_tell_rules_faulty :
    let mended := { faulty with submit.maxAttempts := 5 }
    (∀ s ∉ [Setting.maxAttempts], faulty.Agree mended s) ∧
      without [.maxAttempts] faulty.problems = without [.maxAttempts] mended.problems ∧
      faulty.problems.map SettingError.field =
        ["submit.max_attempts", "contracts.market", "contracts.token"] := by
  intro mended
  have hagree : ∀ s ∉ [Setting.maxAttempts], faulty.Agree mended s := by
    intro s hs
    cases s with
    | maxAttempts => exact absurd List.mem_cons_self hs
    | _ => rfl
  obtain ⟨-, -, -, hothers⟩ := problems_tell_rules faulty
  exact ⟨hagree, hothers mended _ hagree, by decide +kernel⟩

end Config
end Courier
