import Mailroom.Proofs.Json.Members
import Mailroom.Proofs.Number.Digits
import Mailroom.Proofs.Template.Helper
import Mathlib.Algebra.Group.Nat.Defs
import Mathlib.Data.List.Forall2

/-!
# Kinds of values

What can be known of a value before a template is shown with it. A kind says enough of the data to
tell that a path leads somewhere, that a list can be gone through, and that a helper has an answer:

* `Kind.Holds`: a value is of a kind;
* `Kind.along`: the kind of what lies at the end of a path;
* `Kind.ofAnswer`: the kind of what a helper gives for arguments of some kinds.

For a path, or a helper, that could fail there is no kind.
-/

namespace Mailroom

namespace Template

open Journal (Gives)

/-! ## Following paths -/

/-- Nothing lies below `null`. -/
theorem descend_null (names : List String) :
    ∃ o, descend names .null = .ok o ∧ o.getD .null = .null := by
  cases names with
  | nil => exact ⟨_, rfl, rfl⟩
  | cons name names => exact ⟨none, rfl, rfl⟩

/-- A path goes on from where it has led to. -/
theorem descend_append {p : List String} {v w : Json} (h : descend p v = .ok (some w))
    (q : List String) : descend (p ++ q) v = descend q w := by
  induction p generalizing v with
  | nil =>
    cases h
    rfl
  | cons name p ih =>
    rw [List.cons_append, descend]
    rw [descend] at h
    split at h
    · exact ih h
    · cases h
    · cases h

/-- No array that fits into memory has that many items, so an item can be told by its number. -/
def itemLimit : Nat := 2 ^ 63

theorem readUnsigned?_natText {n : Nat} (h : n < 2 ^ 64) :
    Number.readUnsigned? 64 (Number.natText n) = some n := by
  have hplus : ∀ ds, Number.natText n ≠ '+' :: ds := by
    intro ds hds
    have hdigits := Number.isDigits_natText n
    rw [hds] at hdigits
    exact absurd (Number.isDigits_cons.mp hdigits).1 (by decide)
  unfold Number.readUnsigned?
  split
  · rename_i ds hds
    exact absurd hds (hplus ds)
  · rw [Number.readNat?_natText]
    exact if_pos h

/-- An item lies under its number. -/
theorem child_item {items : List Json} {i : Nat} (h : i < 2 ^ 64) :
    child (String.ofList (Number.natText i)) (.arr items) = .ok items[i]? := by
  rw [child, String.toList_ofList, readUnsigned?_natText h]

theorem descend_item {path : List String} {root : Json} {items : List Json}
    (h : descend path root = .ok (some (.arr items))) {i : Nat} {v : Json}
    (hi : items[i]? = some v) (hlimit : items.length < itemLimit) :
    descend (path ++ [String.ofList (Number.natText i)]) root = .ok (some v) := by
  have hlt : i < items.length := (List.getElem?_eq_some_iff.mp hi).1
  have hnumber : i < 2 ^ 64 := by
    unfold itemLimit at hlimit
    omega
  rw [descend_append h, descend, child_item hnumber, hi]
  rfl

/-! ## Kinds -/

/-- What is known of a value. -/
inductive Kind where
  /-- Nothing. -/
  | any
  /-- It is a string. -/
  | text
  /-- It is an amount of money, or it says nothing. -/
  | amount
  /-- It is a natural number up to the greatest one. -/
  | whole (greatest : Nat)
  /-- It is an object whose members are of the kinds of their names. What is absent is `null`. -/
  | record (member : String → Kind)
  /-- It is `null`, or an array with items of a kind. -/
  | list (item : Kind)

namespace Kind

/-- A value is of a kind. -/
def Holds : Kind → Json → Prop
  | any, _ => True
  | text, v => ∃ s, v = .str s
  | amount, v => Payload.isEmpty v = true ∨ ∃ x, Money.amount? v = some x
  | whole greatest, v => ∃ i ≤ greatest, v = Json.ofNat i
  | record member, v => ∃ members, v = .obj members ∧
      ∀ name, (member name).Holds ((Json.Members.get? members name).getD .null)
  | list item, v => v = .null ∨
      ∃ items, v = .arr items ∧ items.length < itemLimit ∧ ∀ w ∈ items, item.Holds w

/-- Whether nothing is known of a value. -/
def isAny : Kind → Bool
  | any => true
  | _ => false

theorem holds_of_isAny {k : Kind} (h : k.isAny = true) (v : Json) : k.Holds v := by
  cases k with
  | any => trivial
  | _ => cases h

/-- Whether nothing is known of the members of a name. -/
def leavesOpen : Kind → String → Bool
  | record member, name => (member name).isAny
  | _, _ => false

theorem Holds.isObject {k : Kind} {name : String} {v : Json} (h : k.Holds v)
    (hopen : k.leavesOpen name = true) : ∃ ms, v = .obj ms := by
  cases k with
  | record member =>
    obtain ⟨ms, rfl, -⟩ := h
    exact ⟨ms, rfl⟩
  | _ => cases hopen

/-- Another member can be put in if nothing is known of those of its name. -/
theorem Holds.insert {k : Kind} {ms : Json.Members} {key : String} (h : k.Holds (.obj ms))
    (hopen : k.leavesOpen key = true) (value : Json) :
    k.Holds (.obj (Json.Members.insert key value ms)) := by
  cases k with
  | record member =>
    obtain ⟨_, ⟨⟩, hmembers⟩ := h
    refine ⟨_, rfl, fun name ↦ ?_⟩
    rw [Json.Members.get?_insert]
    split
    · rename_i hname
      rw [hname]
      exact holds_of_isAny hopen value
    · exact hmembers name
  | _ => cases hopen

theorem Holds.insertAll {k : Kind} {ms : Json.Members} {named : List (String × Found)}
    (h : k.Holds (.obj ms)) (hopen : ∀ n ∈ named, k.leavesOpen n.1 = true) :
    k.Holds (.obj (named.foldl (fun ms n ↦ Json.Members.insert n.1 n.2.value ms) ms)) := by
  induction named generalizing ms with
  | nil => exact h
  | cons n named ih =>
    obtain ⟨hn, hnamed⟩ := List.forall_mem_cons.mp hopen
    exact ih (h.insert hn n.2.value) hnamed

/-- The kind at the end of a list of names. -/
def along : Kind → List String → Option Kind
  | k, [] => some k
  | record member, name :: names => (member name).along names
  | _, _ :: _ => none
termination_by structural _ names => names

/-- A path whose end has a kind can be followed, and leads to a value of the kind. -/
theorem Holds.descend {k k' : Kind} {names : List String} {v : Json} (h : k.Holds v)
    (hk : k.along names = some k') :
    ∃ o, Template.descend names v = .ok o ∧ k'.Holds (o.getD .null) := by
  induction names generalizing k v with
  | nil =>
    rw [along] at hk
    cases hk
    exact ⟨some v, rfl, h⟩
  | cons name names ih =>
    cases k with
    | record member =>
      rw [along] at hk
      obtain ⟨members, rfl, hmembers⟩ := h
      have hv := hmembers name
      rw [Template.descend, child]
      cases hget : Json.Members.get? members name with
      | some inner =>
        rw [hget] at hv
        exact ih hv hk
      | none =>
        -- An absent member is as good as one that is `null`, below which nothing lies.
        rw [hget] at hv
        obtain ⟨o, ho, hnull⟩ := ih hv hk
        obtain ⟨o', ho', hnull'⟩ := descend_null names
        cases ho.symm.trans ho'
        rw [hnull'] at hnull
        exact ⟨none, rfl, hnull⟩
    | _ => cases hk

/-! ## Helpers -/

/-- The kind of a literal. -/
def ofLiteral : Json → Kind
  | .str _ => text
  | .num (.int (.ofNat n)) => whole n
  | _ => any

theorem holds_ofLiteral (v : Json) : (ofLiteral v).Holds v := by
  unfold ofLiteral
  split
  · exact ⟨_, rfl⟩
  · exact ⟨_, Nat.le_refl _, rfl⟩
  · trivial

/-- The kind of what a helper gives for arguments of some kinds. -/
def ofAnswer (helper : String) (args : List Kind) : Option Kind :=
  match helper, args with
  | "t", text :: _ => some text
  | "concat", _ => some text
  | "salutation", _ => some text
  | "formatDate", _ => some text
  | "formatDateRange", _ => some text
  | "now", _ => some text
  | "or", _ => some any
  | "firstValid", _ => some any
  | "safe", _ => some any
  | "formatCurrency", amount :: _ => some text
  | "add", [whole m, whole n] => if Number.fitsInt64 (m + n) then some any else none
  | _, _ => none

/-- The arguments of a call are of some kinds. -/
def AllHold (kinds : List Kind) (args : List Found) : Prop :=
  List.Forall₂ (fun k f ↦ k.Holds f.value) kinds args

/-- A helper answers with a value of a kind. -/
def Answers (k : Kind) (act : Attempt Fault Json) : Prop :=
  ∀ now, Gives now act.run fun o ↦ ∃ v, o = .ok v ∧ k.Holds v

theorem Answers.pure {k : Kind} {v : Json} (h : k.Holds v) : Answers k (pure v) :=
  fun _ ↦ Gives.pure ⟨v, rfl, h⟩

theorem emptyFor_answers (helper : String) : text.Answers (emptyFor helper) := fun _ ↦
  Gives.lift (P := fun _ ↦ True) (Gives.log.bind fun _ _ ↦ Gives.count) fun _ _ ↦
    Gives.pure ⟨_, rfl, _, rfl⟩

theorem dated_answers (helper : String) (form : Json → String) (c : Call) :
    text.Answers (dated helper form c) := by
  unfold dated
  split
  · exact emptyFor_answers helper
  · exact .pure ⟨_, rfl⟩

theorem safe_answers (c : Call) : any.Answers (safe c) := by
  unfold safe
  split
  · exact fun now ↦ Gives.lift Gives.log fun _ _ ↦ (emptyFor_answers _ now).weaken fun o ho ↦ by
      obtain ⟨v, rfl, -⟩ := ho
      exact ⟨v, rfl, trivial⟩
  · exact .pure trivial

theorem presentTime_answers : text.Answers presentTime := fun _ ↦
  Gives.lift Gives.clock fun _ _ ↦ Gives.pure ⟨_, rfl, _, rfl⟩

theorem localized_answers (s : Setting) {c : Call} {f : Found} {rest : List Found}
    (hargs : c.args = f :: rest) (hf : text.Holds f.value) : text.Answers (localized s c) := by
  intro now
  obtain ⟨key, hkey⟩ := hf
  have hrequire : c.require "t" 0 = .ok f := by rw [Call.require, hargs]; rfl
  unfold localized
  rw [hrequire]
  refine Gives.bindExcept (P := (· = .ok f)) (.pure rfl) ?_ nofun
  rintro _ ⟨⟩
  obtain ⟨value, place, missing, source⟩ := f
  cases hkey
  refine Gives.bindExcept (P := (· = .ok key)) (.pure rfl) ?_ nofun
  rintro _ ⟨⟩
  split
  · exact Gives.lift Gives.log fun _ _ ↦ .pure ⟨_, rfl, _, rfl⟩
  · exact Gives.lift ((s.store.textFor_steady _ _ _).gives now) fun _ _ ↦
      .pure ⟨_, rfl, _, rfl⟩

theorem priced_answers (s : Setting) {c : Call} (h : amount.Holds (c.arg 0)) :
    text.Answers (priced s c) := by
  unfold priced
  split
  · exact emptyFor_answers _
  · rename_i hempty
    obtain hempty' | ⟨x, hx⟩ := h
    · exact absurd hempty' hempty
    · rw [hx]
      exact .pure ⟨_, rfl⟩

/-- Two natural numbers have a sum if it has at most 64 bits. -/
theorem add_ofNat {i j m n : Nat} (h : Number.fitsInt64 (m + n) = true) (hi : i ≤ m)
    (hj : j ≤ n) : (Payload.add (Json.ofNat i) (Json.ofNat j)).isSome = true := by
  have hfits : ∀ k : Nat, k ≤ m + n → Number.fitsInt64 k = true := by
    intro k hk
    simp only [Number.fitsInt64, Bool.and_eq_true, decide_eq_true_eq] at h ⊢
    have hmin : Number.int64Min ≤ 0 := by decide
    exact ⟨by omega, by omega⟩
  have hoperand : ∀ k : Nat, k ≤ m + n → Payload.operand? (Json.ofNat k) = some (.int k) := by
    intro k hk
    have hwhole : (Json.Number.int k).int64? = some (k : Int) := if_pos (hfits k hk)
    unfold Json.ofNat Payload.operand?
    dsimp only
    rw [hwhole]
  have hsum : Number.fitsInt64 (i + j) = true := by exact_mod_cast hfits (i + j) (by omega)
  rw [Payload.add, hoperand i (by omega), hoperand j (by omega)]
  simp only [Option.bind_eq_bind, Option.bind_some]
  rw [if_pos hsum]
  rfl

theorem summed_answers {c : Call} {m n : Nat} {f g : Found} (hargs : c.args = [f, g])
    (hm : (whole m).Holds f.value) (hn : (whole n).Holds g.value)
    (h : Number.fitsInt64 (m + n) = true) : any.Answers (summed c) := by
  obtain ⟨i, hi, hf⟩ := hm
  obtain ⟨j, hj, hg⟩ := hn
  obtain ⟨sum, hsum⟩ := Option.isSome_iff_exists.mp (add_ofNat h hi hj)
  have hadd : Payload.add (c.arg 0) (c.arg 1) = some sum := by
    rw [Call.arg, Call.arg, hargs]
    simp only [List.getElem?_cons_zero, List.getElem?_cons_succ, Option.map_some, Option.getD_some]
    rw [hf, hg, hsum]
  unfold summed
  rw [hadd]
  exact .pure trivial

/-- A helper for which there is a kind of answer gives one. -/
theorem ofAnswer_answers {helper : String} {kinds : List Kind} {k : Kind}
    (h : ofAnswer helper kinds = some k) :
    ∃ f, helper? helper = some (.value f) ∧
      ∀ s c, AllHold kinds c.args → k.Answers (f s c) := by
  unfold ofAnswer at h
  split at h
  case h_1 =>
    cases h
    refine ⟨_, rfl, fun s c hargs ↦ ?_⟩
    generalize hc : c.args = args at hargs
    obtain _ | ⟨hf, -⟩ := hargs
    exact localized_answers s hc hf
  case h_2 | h_3 =>
    cases h
    exact ⟨_, rfl, fun _ _ _ _ ↦ Gives.pure ⟨_, rfl, _, rfl⟩⟩
  case h_4 | h_5 =>
    cases h
    exact ⟨_, rfl, fun _ c _ ↦ dated_answers _ _ c⟩
  case h_6 =>
    cases h
    exact ⟨_, rfl, fun _ _ _ ↦ presentTime_answers⟩
  case h_7 | h_8 =>
    cases h
    exact ⟨_, rfl, fun _ _ _ _ ↦ Gives.pure ⟨_, rfl, trivial⟩⟩
  case h_9 =>
    cases h
    exact ⟨_, rfl, fun _ c _ ↦ safe_answers c⟩
  case h_10 =>
    cases h
    refine ⟨_, rfl, fun s c hargs ↦ priced_answers s ?_⟩
    generalize hc : c.args = args at hargs
    obtain _ | ⟨hf, -⟩ := hargs
    rw [Call.arg, hc]
    exact hf
  case h_11 m n =>
    split at h
    · rename_i hfits
      cases h
      refine ⟨_, rfl, fun s c hargs ↦ ?_⟩
      generalize hc : c.args = args at hargs
      obtain _ | ⟨hf, _ | ⟨hg, ⟨⟩⟩⟩ := hargs
      exact summed_answers hc hf hg hfits
    · cases h
  case h_12 => cases h

end Kind

end Template

end Mailroom
