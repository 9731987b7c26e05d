import Courier.Node.Reply
import Courier.Proofs.Text

/-!
What the body of a reply says. It spells a JSON value, and this is an object or a short list with a
result and an error, each of which may be missing or `null`.
-/
namespace Courier.Node.Reply

open Json (Written)

/-- The value under a name, which is there once or not at all. -/
inductive Under (name : String) : List (Option String × Written) → Option Written → Prop where
  | missing {members : List (Option String × Written)}
      (hmissing : ∀ m ∈ members, m.1 ≠ some name) : Under name members none
  | once {before after : List (Option String × Written)} {v : Written}
      (hbefore : ∀ m ∈ before, m.1 ≠ some name) (hafter : ∀ m ∈ after, m.1 ≠ some name) :
      Under name (before ++ (some name, v) :: after) (some v)

/-- Two values that are told together: members of an object whose names can all be read, or the
items of a list in their order, where the last ones may be missing. -/
inductive Paired (first second : String) :
    Written → Option Written → Option Written → Prop where
  | members {members : List (Option String × Written)} {a b : Option Written}
      (hnames : ∀ m ∈ members, m.1 ≠ none) (hfirst : Under first members a)
      (hsecond : Under second members b) : Paired first second (.object members) a b
  | noItem : Paired first second (.array []) none none
  | oneItem (a : Written) : Paired first second (.array [a]) (some a) none
  | twoItems (a b : Written) : Paired first second (.array [a, b]) (some a) (some b)

/-- A whole number of 64 bits with a sign. Minus zero is none. -/
inductive IsWord : Written → Int → Prop where
  | plain {n : Nat} (hn : n < 0x8000000000000000) : IsWord (.integer false n) n
  | negative {n : Nat} (hzero : n ≠ 0) (hn : n ≤ 0x8000000000000000) :
      IsWord (.integer true n) (-n)

/-- An error: a number and a message, both of which are there. -/
def IsError (w : Written) (e : Int × String) : Prop :=
  ∃ code, Paired "code" "message" w (some code) (some (.string (some e.2))) ∧ IsWord code e.1

/-- A result: a value that nests one level less deep than a whole text may. -/
def IsResult (w : Written) (v : Json) : Prop :=
  w.toJson? (Json.maxDepth - 1) = some v

/-- What a part of a reply means, where `null` is as good as nothing. -/
inductive Means {α : Type} (Is : Written → α → Prop) : Option Written → Option α → Prop where
  | missing : Means Is none none
  | null : Means Is (some .null) none
  | value {w : Written} {a : α} (hnull : w ≠ .null) (ha : Is w a) : Means Is (some w) (some a)

/-- A written value that is a reply. -/
def Reads (w : Written) (r : Reply) : Prop :=
  ∃ result error, Paired "result" "error" w result error ∧ Means IsResult result r.result ∧
    Means IsError error r.error

/-- The bytes of a text that spells a JSON value. -/
def Spells (body : List UInt8) (w : Written) : Prop :=
  ∃ text : String, body = text.toUTF8.toList ∧ Written.ofText? text.toList = some w

/-- A body that tells this result and this error. -/
def Told (body : List UInt8) (result : Option Json) (error : Option (Int × String)) : Prop :=
  ∃ w, Spells body w ∧ Reads w ⟨result, error⟩

variable {first second name : String} {w : Written} {body : List UInt8}

theorem once?_eq_some_iff {members : List (Option String × Written)} {v : Option Written} :
    once? name members = some v ↔ Under name members v := by
  unfold once?
  constructor
  · intro h
    split at h
    · next hnone =>
      cases h
      refine .missing fun m hm hname => ?_
      have hmem : m ∈ members.filter fun m => m.1 == some name := by simp [hm, hname]
      rw [hnone] at hmem
      cases hmem
    · next m hone =>
      cases h
      obtain ⟨before, after, rfl, hbefore, hname, hafter⟩ := List.filter_eq_cons_iff.1 hone
      have hm : m = (some name, m.2) := Prod.ext (beq_iff_eq.1 hname) rfl
      have hafter : ∀ m ∈ after, m.1 ≠ some name := by simpa using hafter
      rw [hm]
      exact .once (by simpa using hbefore) hafter
    · cases h
  · intro h
    cases h with
    | missing hmissing =>
      have hfilter : members.filter (fun m => m.1 == some name) = [] := by simpa using hmissing
      rw [hfilter]
    | @once before after v hbefore hafter =>
      have hfirst : before.filter (fun m => m.1 == some name) = [] := by simpa using hbefore
      have hrest : after.filter (fun m => m.1 == some name) = [] := by simpa using hafter
      simp [hfirst, hrest]

theorem pair?_eq_some_iff {a b : Option Written} :
    pair? first second w = some (a, b) ↔ Paired first second w a b := by
  constructor
  · intro h
    unfold pair? at h
    split at h
    · next members =>
      split at h
      · next hnames =>
        split at h
        · next hfirst hsecond =>
          cases h
          have hnames : ∀ m ∈ members, m.1 ≠ none := by
            simpa [Option.isSome_iff_ne_none] using hnames
          exact .members hnames (once?_eq_some_iff.1 hfirst) (once?_eq_some_iff.1 hsecond)
        · cases h
      · cases h
    · cases h
      exact .noItem
    · cases h
      exact .oneItem _
    · cases h
      exact .twoItems _ _
    · cases h
  · intro h
    cases h with
    | @members members a b hnames hfirst hsecond =>
      have hnames : (members.all fun m => m.1.isSome) = true := by
        simpa [Option.isSome_iff_ne_none] using hnames
      rw [pair?, if_pos hnames, once?_eq_some_iff.2 hfirst, once?_eq_some_iff.2 hsecond]
    | noItem => rfl
    | oneItem => rfl
    | twoItems => rfl

theorem word?_eq_some_iff {i : Int} : word? w = some i ↔ IsWord w i := by
  constructor
  · intro h
    unfold word? at h
    split at h
    · split at h
      · next hn =>
        cases h
        exact .plain hn
      · cases h
    · split at h
      · next hn =>
        cases h
        exact .negative hn.1 hn.2
      · cases h
    · cases h
  · intro h
    cases h with
    | plain hn => exact if_pos hn
    | negative hzero hn => exact if_pos ⟨hzero, hn⟩

theorem error?_eq_some_iff {e : Int × String} : error? w = some e ↔ IsError w e := by
  unfold error?
  constructor
  · intro h
    split at h
    · next code message hparts =>
      obtain ⟨i, hi, rfl⟩ := Option.map_eq_some_iff.1 h
      exact ⟨code, pair?_eq_some_iff.1 hparts, word?_eq_some_iff.1 hi⟩
    · cases h
  · intro h
    obtain ⟨code, hparts, hcode⟩ := h
    rw [pair?_eq_some_iff.2 hparts]
    simp [word?_eq_some_iff.2 hcode]

theorem optional?_eq_some_iff {α : Type} {read : Written → Option α} {Is : Written → α → Prop}
    (hread : ∀ w a, read w = some a ↔ Is w a) {v : Option Written} {a : Option α} :
    optional? read v = some a ↔ Means Is v a := by
  constructor
  · intro h
    unfold optional? at h
    split at h
    · cases h
      exact .missing
    · cases h
      exact .null
    · next w hnull =>
      obtain ⟨a, ha, rfl⟩ := Option.map_eq_some_iff.1 h
      exact .value hnull ((hread w a).1 ha)
  · intro h
    cases h with
    | missing => rfl
    | null => rfl
    | @value w a hnull ha =>
      have hmap : optional? read (some w) = (read w).map some := by
        cases w with
        | null => exact absurd rfl hnull
        | _ => rfl
      rw [hmap, (hread w a).2 ha]
      rfl

/-- Bytes spell one value at most. -/
theorem Spells.unique {w' : Written} (h : Spells body w) (h' : Spells body w') : w = w' := by
  obtain ⟨text, htext, hw⟩ := h
  obtain ⟨text', htext', hw'⟩ := h'
  have hsame := (Text.fromUTF8?_eq_some_iff.2 htext).symm.trans
    (Text.fromUTF8?_eq_some_iff.2 htext')
  rw [← Option.some.inj hsame, hw] at hw'
  exact Option.some.inj hw'

theorem ofWritten?_eq_some_iff {r : Reply} : ofWritten? w = some r ↔ Reads w r := by
  have hresult := @optional?_eq_some_iff Json (Written.toJson? (Json.maxDepth - 1)) IsResult
    fun _ _ => Iff.rfl
  have herror := @optional?_eq_some_iff (Int × String) error? IsError
    fun _ _ => error?_eq_some_iff
  unfold ofWritten?
  constructor
  · intro h
    split at h
    · cases h
    · next a b hparts =>
      split at h
      · next ha hb =>
        cases h
        exact ⟨a, b, pair?_eq_some_iff.1 hparts, hresult.1 ha, herror.1 hb⟩
      · cases h
  · intro h
    obtain ⟨a, b, hparts, ha, hb⟩ := h
    simp only [pair?_eq_some_iff.2 hparts, hresult.2 ha, herror.2 hb]

theorem ofBody?_eq_some_iff {r : Reply} :
    ofBody? body = some r ↔ ∃ w, Spells body w ∧ Reads w r := by
  unfold ofBody?
  constructor
  · intro h
    obtain ⟨text, htext, h⟩ := Option.bind_eq_some_iff.1 h
    obtain ⟨w, hw, hr⟩ := Option.bind_eq_some_iff.1 h
    exact ⟨w, ⟨text, Text.fromUTF8?_eq_some_iff.1 htext, hw⟩, ofWritten?_eq_some_iff.1 hr⟩
  · intro h
    obtain ⟨w, ⟨text, htext, hw⟩, hr⟩ := h
    rw [Text.fromUTF8?_eq_some_iff.2 htext, Option.bind_some, hw, Option.bind_some]
    exact ofWritten?_eq_some_iff.2 hr

theorem real?_ne_null {negative : Bool} {whole part : List Char} {exponent : Int} :
    Written.real? negative whole part exponent ≠ some .null := by
  unfold Written.real?
  dsimp only
  split <;> simp

theorem whole?_ne_null {negative : Bool} {magnitude : Nat} :
    Written.whole? negative magnitude ≠ some .null := by
  unfold Written.whole?
  split
  · split
    · exact real?_ne_null
    · simp
  · split
    · simp
    · exact real?_ne_null

/-- Only `null` is read as `null`. -/
theorem IsResult.ne_null {v : Json} (h : IsResult w v) (hnull : w ≠ .null) : v ≠ .null := by
  intro hv
  subst hv
  unfold IsResult at h
  cases w with
  | null => exact hnull rfl
  | integer negative magnitude => exact whole?_ne_null h
  | decimal negative whole part exponent => exact real?_ne_null h
  | _ => simp [Written.toJson?] at h

theorem told_iff {result : Option Json} {error : Option (Int × String)} :
    Told body result error ↔ ofBody? body = some ⟨result, error⟩ :=
  ofBody?_eq_some_iff.symm

theorem exists_ofBody?_of_text {text : String} {check : Reply → Bool}
    (hread : ((Written.ofText? text.toList).bind ofWritten?).any check = true) :
    ∃ r, ofBody? text.toUTF8.toList = some r ∧ check r = true := by
  unfold ofBody?
  rw [Text.fromUTF8?_toUTF8]
  exact (Option.any_eq_true _ _).1 hread

/-- A result that is told is not `null`. -/
theorem Told.ne_null {v : Json} {error : Option (Int × String)} (h : Told body (some v) error) :
    v ≠ .null := by
  obtain ⟨w, -, a, b, -, hresult, -⟩ := h
  cases hresult with
  | value hnull hv => exact hv.ne_null hnull

end Courier.Node.Reply
