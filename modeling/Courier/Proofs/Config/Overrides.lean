import Courier.Proofs.Config.Validation
import Courier.Proofs.Numeral.Reading

/-!
What an environment makes of settings. It may set four of them; the first variable that holds no
number ends the changes, and no settings are loaded then.
-/
namespace Courier

theorem Numeral.Spells.isBlank_eq_false {s : List Char} {n : Nat} (h : Numeral.Spells 10 s n)
    {c : Char} (hc : c ∈ s) : Text.isBlank c = false := by
  obtain ⟨ds, hlt, hmap, -⟩ := h
  have hlower : Text.lowerAscii c ∈ ds.map Nat.digitChar := hmap ▸ List.mem_map_of_mem hc
  obtain ⟨d, hd, heq⟩ := List.mem_map.1 hlower
  have hdigits : ∀ d < 10, (Nat.digitChar d).toNat < 128 := by decide
  have hascii : c.toNat < 128 := by
    rw [← Text.toNat_lowerAscii_lt_iff, ← heq]
    exact hdigits d (hlt d hd)
  have hall : ∀ k < 128, ∀ d < 10, Text.lowerAscii (Char.ofNat k) = Nat.digitChar d →
      Text.isBlank (Char.ofNat k) = false := by decide +kernel
  exact Text.forall_ascii
    (p := fun c => Text.lowerAscii c = Nat.digitChar d → Text.isBlank c = false)
    (fun k hk => hall k hk d (hlt d hd)) hascii heq.symm

theorem Numeral.Plain.isBlank_eq_false {s : List Char} {n : Nat} (h : Numeral.Plain s n) :
    ∀ c ∈ s, Text.isBlank c = false := by
  obtain ⟨digits, hsign, -, hspells⟩ := h
  have hdigits : ∀ c ∈ digits, Text.isBlank c = false := fun c hc => hspells.isBlank_eq_false hc
  rcases hsign with rfl | rfl
  · exact hdigits
  · exact List.forall_mem_cons.2 ⟨by decide, hdigits⟩

theorem Numeral.plain_decimal (n : Nat) : Numeral.Plain (Numeral.decimal n) n :=
  Numeral.unsigned?_eq_some_iff.1 (Numeral.unsigned?_decimal n)

namespace Environment

/-- A text stands for a number of 64 bits when it is a plain numeral between blanks. -/
def Stands (text : String) (n : UInt64) : Prop :=
  ∃ before digits after, text.toList = before ++ (digits ++ after) ∧
    (∀ c ∈ before, Text.isBlank c = true) ∧ (∀ c ∈ after, Text.isBlank c = true) ∧
    Numeral.Plain digits n.toNat

/-- What a number becomes under a variable that is not set, or that holds a number. -/
inductive Sets : Option String → UInt64 → UInt64 → Prop where
  | unset (old : UInt64) : Sets none old old
  | set {text : String} {n : UInt64} (old : UInt64) (h : Stands text n) : Sets (some text) old n

/-- What settings become under an environment, with the variable that ended the changes. -/
inductive Changes (lookup : String → Option String) (c : Config) :
    Config → Option BadValue → Prop where
  | all {payment life : UInt64}
      (hpayment : Sets (lookup paymentAmount) c.deploy.paymentAmount payment)
      (hlife : Sets (lookup ttl) c.deploy.ttlMs life) :
      Changes lookup c
        { c with
          node.rpcUrl := (lookup nodeAddress).getD c.node.rpcUrl
          node.chainName := (lookup chainName).getD c.node.chainName
          deploy.paymentAmount := payment
          deploy.ttlMs := life }
        none
  | untilPayment {text : String} (hset : lookup paymentAmount = some text)
      (hbad : ∀ n, ¬ Stands text n) :
      Changes lookup c
        { c with
          node.rpcUrl := (lookup nodeAddress).getD c.node.rpcUrl
          node.chainName := (lookup chainName).getD c.node.chainName }
        (some ⟨paymentAmount, text⟩)
  | untilLife {payment : UInt64} {text : String}
      (hpayment : Sets (lookup paymentAmount) c.deploy.paymentAmount payment)
      (hset : lookup ttl = some text) (hbad : ∀ n, ¬ Stands text n) :
      Changes lookup c
        { c with
          node.rpcUrl := (lookup nodeAddress).getD c.node.rpcUrl
          node.chainName := (lookup chainName).getD c.node.chainName
          deploy.paymentAmount := payment }
        (some ⟨ttl, text⟩)

theorem unsignedBits?_trim_eq_some_iff {text : String} {n : UInt64} :
    Numeral.unsignedBits? 64 (Text.trim text.toList) = some n.toNat ↔ Stands text n := by
  rw [Numeral.unsignedBits?_eq_some_iff]
  constructor
  · intro h
    obtain ⟨before, after, htext, hbefore, hafter⟩ :=
      Text.exists_stripEnds Text.isBlank text.toList
    exact ⟨before, _, after, htext, hbefore, hafter, h.1⟩
  · intro h
    obtain ⟨before, digits, after, htext, hbefore, hafter, hdigits⟩ := h
    have htrim : Text.trim text.toList = digits := by
      rw [htext, Text.trim, Text.stripEnds_append hbefore hafter]
      exact Text.trim_eq_self hdigits.isBlank_eq_false
    exact ⟨htrim ▸ hdigits, n.toNat_lt⟩

variable {name text : String} {set : UInt64 → Config → Config} {c : Config} {n : UInt64}

theorem number_of_stands (h : Stands text n) :
    number name (some text) set c = (set n c, none) := by
  unfold number
  simp only [unsignedBits?_trim_eq_some_iff.2 h, UInt64.ofNat_toNat]

theorem number_of_not_stands (h : ∀ n, ¬ Stands text n) :
    number name (some text) set c = (c, some ⟨name, text⟩) := by
  unfold number
  simp only
  split
  case h_1 m hm =>
    have hlt : m < 2 ^ 64 := (Numeral.unsignedBits?_eq_some_iff.1 hm).2
    have hstands : Stands text (UInt64.ofNat m) := by
      rw [← unsignedBits?_trim_eq_some_iff, UInt64.toNat_ofNat_of_lt' hlt]
      exact hm
    exact absurd hstands (h _)
  case h_2 => rfl

/-- A number is set, or its variable holds none. -/
theorem sets_or_bad (value : Option String) (old : UInt64) :
    (∃ n, Sets value old n) ∨ ∃ text, value = some text ∧ ∀ n, ¬ Stands text n := by
  cases value with
  | none => exact .inl ⟨old, .unset old⟩
  | some text =>
    by_cases h : ∃ n, Stands text n
    · obtain ⟨n, hn⟩ := h
      exact .inl ⟨n, .set old hn⟩
    · exact .inr ⟨text, rfl, not_exists.1 h⟩

theorem exists_changes (lookup : String → Option String) (c : Config) :
    ∃ c' bad?, Changes lookup c c' bad? := by
  rcases sets_or_bad (lookup paymentAmount) c.deploy.paymentAmount with
    ⟨payment, hpayment⟩ | ⟨text, hset, hbad⟩
  · rcases sets_or_bad (lookup ttl) c.deploy.ttlMs with ⟨life, hlife⟩ | ⟨text, hset, hbad⟩
    · exact ⟨_, _, .all hpayment hlife⟩
    · exact ⟨_, _, .untilLife hpayment hset hbad⟩
  · exact ⟨_, _, .untilPayment hset hbad⟩

theorem number_of_sets {value : Option String} {old : UInt64} (h : Sets value old n)
    (hold : set old c = c) : number name value set c = (set n c, none) := by
  cases h with
  | unset => rw [hold]; rfl
  | set old h => exact number_of_stands h

/-- Texts are taken as they are. -/
theorem apply_eq (lookup : String → Option String) (c : Config) :
    apply lookup c =
      match number paymentAmount (lookup paymentAmount)
        (fun n c => { c with deploy.paymentAmount := n })
        { c with
          node.rpcUrl := (lookup nodeAddress).getD c.node.rpcUrl
          node.chainName := (lookup chainName).getD c.node.chainName } with
      | (c, some bad) => (c, some bad)
      | (c, none) => number ttl (lookup ttl) (fun n c => { c with deploy.ttlMs := n }) c := by
  unfold apply
  cases lookup nodeAddress <;> cases lookup chainName <;> rfl

theorem apply_of_changes {lookup : String → Option String} {c c' : Config}
    {bad? : Option BadValue} (h : Changes lookup c c' bad?) : apply lookup c = (c', bad?) := by
  rw [apply_eq]
  cases h with
  | all hpayment hlife =>
    rw [number_of_sets hpayment rfl]
    exact number_of_sets hlife rfl
  | untilPayment hset hbad => rw [hset, number_of_not_stands hbad]
  | untilLife hpayment hset hbad =>
    rw [number_of_sets hpayment rfl, hset]
    exact number_of_not_stands hbad

theorem apply_eq_iff {lookup : String → Option String} {c c' : Config} {bad? : Option BadValue} :
    apply lookup c = (c', bad?) ↔ Changes lookup c c' bad? := by
  constructor
  · intro h
    obtain ⟨c₁, bad₁, hchanges⟩ := exists_changes lookup c
    have hsame := (apply_of_changes hchanges).symm.trans h
    obtain ⟨rfl, rfl⟩ := Prod.mk.injEq .. ▸ hsame
    exact hchanges
  · exact apply_of_changes

/-- Among blanks, the decimal text of a number stands for this number and no other. -/
theorem stands_decimal_iff {before after : List Char} (hbefore : ∀ c ∈ before, Text.isBlank c = true)
    (hafter : ∀ c ∈ after, Text.isBlank c = true) {n m : UInt64} :
    Stands (String.ofList (before ++ (Numeral.decimal n.toNat ++ after))) m ↔ m = n := by
  have hdecimal := Numeral.plain_decimal n.toNat
  rw [← unsignedBits?_trim_eq_some_iff, String.toList_ofList, Text.trim,
    Text.stripEnds_append hbefore hafter]
  change Numeral.unsignedBits? 64 (Text.trim (Numeral.decimal n.toNat)) = _ ↔ _
  rw [Text.trim_eq_self hdecimal.isBlank_eq_false, Numeral.unsignedBits?_decimal n.toNat_lt,
    Option.some.injEq, UInt64.toNat_inj, eq_comm]

end Environment

namespace Config

/-- A variable that holds no number is reported, whatever rules the settings break. -/
theorem load_of_apply {file : Option (Except ReadError (List UInt8))}
    {lookup : String → Option String} {c₀ c : Config} {bad? : Option Environment.BadValue}
    (hfile : ofFile file = .ok c₀) (happly : Environment.apply lookup c₀ = (c, bad?)) :
    load file lookup =
      bad?.elim (if c.problems = [] then .ok c else .error (.invalid c.problems))
        fun bad => .error (.badVariable bad) := by
  unfold load
  rw [hfile]
  simp only [happly]
  cases bad? with
  | some bad => rfl
  | none => simp only [List.isEmpty_iff, Option.elim_none]

end Config

namespace Environment

/-- An environment changes four settings at most, each to what its variable says; the first one
that holds no number ends the changes, and then no settings are loaded. -/
theorem overrides_settled :
    (∀ (lookup : String → Option String) (c c' : Config) (bad? : Option BadValue),
      apply lookup c = (c', bad?) ↔ Changes lookup c c' bad?) ∧
    (∀ (before after : List Char) (n m : UInt64), (∀ c ∈ before, Text.isBlank c = true) →
      (∀ c ∈ after, Text.isBlank c = true) →
      (Stands (String.ofList (before ++ (Numeral.decimal n.toNat ++ after))) m ↔ m = n)) ∧
    (∀ (file : Option (Except ReadError (List UInt8))) (lookup : String → Option String)
      (c₀ c : Config) (bad? : Option BadValue), Config.ofFile file = .ok c₀ →
      Changes lookup c₀ c bad? →
      Config.load file lookup =
        bad?.elim (if c.problems = [] then .ok c else .error (.invalid c.problems))
          fun bad => .error (.badVariable bad)) ∧
    ∀ (file : Option (Except ReadError (List UInt8))) (lookup : String → Option String)
      (e : ConfigError), Config.ofFile file = .error e → Config.load file lookup = .error e := by
  refine ⟨fun lookup c c' bad? => apply_eq_iff, fun before after n m hbefore hafter =>
    stands_decimal_iff hbefore hafter, fun file lookup c₀ c bad? hfile hchanges =>
    Config.load_of_apply hfile (apply_of_changes hchanges), fun file lookup e hfile => ?_⟩
  unfold Config.load
  rw [hfile]

/-- A chain without a name, the largest payment among blanks and a time to live that is no number. -/
def sampleLookup (name : String) : Option String :=
  if name = chainName then some ""
  else if name = paymentAmount then some "\t 18446744073709551615\n"
  else if name = ttl then some " 1h"
  else none

theorem overrides_settled_sample :
    Stands "\t 18446744073709551615\n" 18446744073709551615 ∧
    Changes sampleLookup .default
      { Config.default with
        node.chainName := ""
        deploy.paymentAmount := 18446744073709551615 }
      (some ⟨"RELAY_TTL_MS", " 1h"⟩) ∧
    Config.load none sampleLookup =
      .error (.badVariable ⟨"RELAY_TTL_MS", " 1h"⟩) := by
  obtain ⟨happly, hdecimal, hload, -⟩ := overrides_settled
  have hbefore : ∀ c ∈ ['\t', ' '], Text.isBlank c = true := List.all_eq_true.1 rfl
  have hafter : ∀ c ∈ ['\n'], Text.isBlank c = true := List.all_eq_true.1 rfl
  have hstands := (hdecimal _ _ 18446744073709551615 _ hbefore hafter).2 rfl
  have hchanges := (happly sampleLookup .default _ _).1 rfl
  exact ⟨hstands, hchanges, hload none sampleLookup _ _ _ rfl hchanges⟩

end Environment
end Courier
