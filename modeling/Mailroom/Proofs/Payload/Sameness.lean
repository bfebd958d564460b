import Mailroom.Payload.Value
import Mailroom.Proofs.Json.Places
import Mailroom.Proofs.Number.Comparison

/-!
# Values that are the same

Two numbers are the same if they are read as one binary fraction, however large they are, and
whether they are whole or fractions. Inside of arrays and objects numbers are the same if they are
equal and of one kind (`same_iff`). So the values that are the same are those that are equal with
their numbers compared by value, but for large numbers outside and for numbers of two kinds inside
(`same_iff_sameValue_iff`).
-/

namespace Mailroom

namespace Json.Number

/-- The number that is meant. -/
def value : Number → ℚ
  | .int i => i
  | .float x => Mailroom.Number.value x

/-- Whether a number is kept as an integer. -/
def isWhole : Number → Bool
  | .int _ => true
  | .float _ => false

/-- A number of a document: an integer of 64 bits, with a sign or without one, or a finite
fraction. -/
def Proper : Number → Prop
  | .int i => -2 ^ 63 ≤ i ∧ i < 2 ^ 64
  | .float x => x.isFinite = true

instance : DecidablePred Proper := fun
  | .int i => inferInstanceAs (Decidable (-2 ^ 63 ≤ i ∧ i < 2 ^ 64))
  | .float x => inferInstanceAs (Decidable (x.isFinite = true))

variable {m n : Number}

theorem isNearest_toFloat (h : n.Proper) : Mailroom.Number.IsNearest n.toFloat n.value := by
  cases n with
  | int i =>
    obtain ⟨hlow, hhigh⟩ := h
    exact Mailroom.Number.isNearest_ofInt (by omega)
  | float x => exact Mailroom.Number.isNearest_value h

/-- Numbers are equal if they are of one kind and of one value. -/
theorem beq_iff (hm : m.Proper) (hn : n.Proper) :
    (m == n) = true ↔ (m.value, m.isWhole) = (n.value, n.isWhole) := by
  rw [Prod.mk.injEq]
  cases m with
  | int i =>
    cases n with
    | int j =>
      have hkind : (int i).isWhole = (int j).isWhole := rfl
      rw [and_iff_left hkind, value, value, Int.cast_inj]
      exact beq_iff_eq (a := i)
    | float y => exact iff_of_false Bool.false_ne_true fun h ↦ nomatch h.2
  | float x =>
    cases n with
    | int j => exact iff_of_false Bool.false_ne_true fun h ↦ nomatch h.2
    | float y =>
      have hkind : (float x).isWhole = (float y).isWhole := rfl
      rw [and_iff_left hkind]
      exact Mailroom.Number.beq_iff_value_eq hm hn

end Json.Number

namespace Payload

open Json

variable {a b : Json}

/-- A value as documents have it: the members of its objects are in order, and its numbers are those
that a document can have. -/
structure Documented (v : Json) : Prop where
  ordered : v.Ordered
  proper : v.AllNumbers Json.Number.Proper

/-- Two values are equal with their numbers compared by value: at every place, the same stands in
both. -/
def SameValue (a b : Json) : Prop := Agree Json.Number.value a b

/-- Where both values have a number, they have a whole one or both a fraction. -/
def SameKinds (a b : Json) : Prop :=
  ∀ path m n, a.at? path = some (.num m) → b.at? path = some (.num n) → m.isWhole = n.isWhole

theorem agree_iff_sameValue_and_sameKinds :
    Agree (fun n ↦ (n.value, n.isWhole)) a b ↔ SameValue a b ∧ SameKinds a b := by
  constructor
  · intro h
    refine ⟨h.imp fun _ _ _ _ _ ↦ congrArg Prod.fst, fun path m n hm hn ↦ ?_⟩
    exact congrArg Prod.snd (Label.num.inj (h.at hm hn))
  · rintro ⟨hvalue, hkinds⟩
    exact hvalue.imp fun path m n hm hn heq ↦ Prod.ext heq (hkinds path m n hm hn)

theorem sameValue_num_iff {m n : Json.Number} :
    SameValue (.num m) (.num n) ↔ m.value = n.value := by
  rw [SameValue, agree_iff, and_iff_left]
  · rw [label, label, Label.num.injEq]
  · intro step
    cases step <;> exact .none

/-- Two numbers are the same if they are read alike. -/
theorem same_num_iff {m n : Json.Number} (hm : m.Proper) (hn : n.Proper) :
    same (.num m) (.num n) = true ↔ Number.ReadAlike m.value n.value :=
  Number.beq_iff_readAlike (Json.Number.isNearest_toFloat hm) (Json.Number.isNearest_toFloat hn)

/-- Other values are the same if they are equal with their numbers compared by value, and have
numbers of one kind in the same places. -/
theorem same_iff (ha : Documented a) (hb : Documented b) (h : ∀ m n, a = .num m → b ≠ .num n) :
    same a b = true ↔ SameValue a b ∧ SameKinds a b := by
  have heq : same a b = (a == b) := by
    cases a with
    | num m =>
      cases b with
      | num n => exact absurd rfl (h m n rfl)
      | null | bool | str | arr | obj => rfl
    | null | bool | str | arr | obj => rfl
  rw [heq, ← agree_iff_sameValue_and_sameKinds]
  exact beq_iff_agree ha.ordered hb.ordered ha.proper hb.proper fun m n ↦ Json.Number.beq_iff

/-- Values are the same exactly if they are equal with their numbers compared by value, but for
this: different numbers are the same if they are read alike, and equal numbers inside of values are
not if one is whole and the other a fraction. -/
theorem same_iff_sameValue_iff (ha : Documented a) (hb : Documented b) :
    (same a b = true ↔ SameValue a b) ↔
      (∀ m n, a = .num m → b = .num n → Number.ReadAlike m.value n.value → m.value = n.value) ∧
        ((∀ m n, a = .num m → b ≠ .num n) → SameValue a b → SameKinds a b) := by
  by_cases h : ∀ m n, a = .num m → b ≠ .num n
  · rw [same_iff ha hb h, and_iff_left_iff_imp, and_iff_right fun m n hm hn ↦ absurd hn (h m n hm)]
    exact ⟨fun himp _ ↦ himp, fun himp ↦ himp h⟩
  · push Not at h
    obtain ⟨m, n, rfl, rfl⟩ := h
    have hm := ha.proper [] m rfl
    have hself : m.value = n.value → Number.ReadAlike m.value n.value := fun heq ↦
      heq ▸ (Json.Number.isNearest_toFloat hm).readAlike_self
    rw [same_num_iff hm (hb.proper [] n rfl), sameValue_num_iff]
    constructor
    · rintro hiff
      refine ⟨?_, fun hnot ↦ absurd rfl (hnot m n rfl)⟩
      rintro _ _ ⟨⟩ ⟨⟩
      exact hiff.mp
    · rintro ⟨hread, -⟩
      exact ⟨hread m n rfl rfl, hself⟩

/-- A list of one number. -/
def listed (n : Json.Number) : Json := .arr [.num n]

theorem documented_listed {n : Json.Number} (h : n.Proper) : Documented (listed n) where
  ordered := .arr fun v hv ↦ List.mem_singleton.mp hv ▸ .num n
  proper path m hm := by
    match path with
    | [.item 0] =>
      cases hm
      exact h

theorem sameValue_listed {m n : Json.Number} (h : m.value = n.value) :
    SameValue (listed m) (listed n) := by
  refine agree_iff.mpr ⟨rfl, fun step ↦ ?_⟩
  match step with
  | .item 0 => exact .some (sameValue_num_iff.mpr h)
  | .item (_ + 1) | .member _ | .unknown => exact .none

theorem same_iff_sameValue_iff_listed :
    Documented (listed (.int 1)) ∧ Documented (listed (.float 1)) ∧
      ((same (listed (.int 1)) (listed (.float 1)) = true ↔
        SameValue (listed (.int 1)) (listed (.float 1))) ↔
      (∀ m n, listed (.int 1) = .num m → listed (.float 1) = .num n →
        Number.ReadAlike m.value n.value → m.value = n.value) ∧
      ((∀ m n, listed (.int 1) = .num m → listed (.float 1) ≠ .num n) →
        SameValue (listed (.int 1)) (listed (.float 1)) →
        SameKinds (listed (.int 1)) (listed (.float 1)))) := by
  have hint : Documented (listed (.int 1)) := documented_listed (by decide)
  have hfloat : Documented (listed (.float 1)) := documented_listed (by decide +kernel)
  exact ⟨hint, hfloat, same_iff_sameValue_iff hint hfloat⟩

/-- Lists of one number are told apart by how it is written, and two large integers are not told
apart. -/
theorem same_of_kinds_and_of_size :
    (same (listed (.int 1)) (listed (.float 1)) = false ∧
      SameValue (listed (.int 1)) (listed (.float 1))) ∧
    same (.num (.int (2 ^ 53))) (.num (.int (2 ^ 53 + 1))) = true ∧
      ¬SameValue (.num (.int (2 ^ 53))) (.num (.int (2 ^ 53 + 1))) := by
  refine ⟨⟨rfl, sameValue_listed (by decide +kernel)⟩, by decide +kernel, ?_⟩
  rw [sameValue_num_iff]
  decide +kernel

end Payload

end Mailroom
