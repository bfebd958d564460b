import Mailroom.Json.Reader
import Mailroom.Proofs.Json.Ordered
import Mathlib.Data.Option.Basic

/-!
# The places inside of a value

Every value inside of another one stands at a place, which is told by the steps that lead there.
Two values agree if the same stands at every place, with as much said of the numbers as one cares
for (`Agree`). This is told from their outermost parts and from their children (`agree_iff`), and
so is whether they are equal (`beq_iff`); hence equality is agreement (`beq_iff_agree`).
-/

namespace Mailroom.Json

variable {α β : Type} {f : Number → α} {g : Number → β} {a b v w : Json} {path : List Step}

/-- The value one step inside. -/
def child? : Json → Step → Option Json
  | .arr items, .item i => items[i]?
  | v, .member key => v.get? key
  | _, _ => none

/-- The value at a place. -/
def at? (v : Json) : List Step → Option Json
  | [] => some v
  | step :: path => (v.child? step).bind (·.at? path)

/-- What is seen of a value from outside: its kind, the text of a string, what is said of a number,
and what there is inside of an array or an object. -/
inductive Label (α : Type) where
  | null
  | bool (value : Bool)
  | num (value : α)
  | str (value : String)
  | arr (length : ℕ)
  | obj (keys : List String)

/-- The outermost part of a value. -/
def label (f : Number → α) : Json → Label α
  | .null => .null
  | .bool b => .bool b
  | .num n => .num (f n)
  | .str s => .str s
  | .arr items => .arr items.length
  | .obj members => .obj (members.map Prod.fst)

/-- The same is seen at every place. -/
def Agree (f : Number → α) (a b : Json) : Prop :=
  ∀ path, (a.at? path).map (label f) = (b.at? path).map (label f)

theorem at?_cons (step : Step) : v.at? (step :: path) = (v.child? step).bind (·.at? path) := rfl

theorem Agree.at (h : Agree f a b) (ha : a.at? path = some v) (hb : b.at? path = some w) :
    label f v = label f w := by
  simpa [ha, hb] using h path

theorem label_congr (h : label f v = label f w)
    (hnum : ∀ m n, v = .num m → w = .num n → f m = f n → g m = g n) : label g v = label g w := by
  cases v with
  | num m =>
    cases w with
    | num n => exact congrArg Label.num (hnum m n rfl rfl (Label.num.inj h))
    | null | bool | str | arr | obj => cases h
  | null | bool | str | arr | obj => cases w <;> simp_all [label]

/-- If less is said of numbers that stand in the same place, values agree in that as well. -/
theorem Agree.imp (h : Agree f a b) (hnum : ∀ path m n, a.at? path = some (.num m) →
    b.at? path = some (.num n) → f m = f n → g m = g n) : Agree g a b := by
  intro path
  have hpath := h path
  cases ha : a.at? path with
  | none =>
    rw [ha, Option.map_none, eq_comm, Option.map_eq_none_iff] at hpath
    rw [hpath]
  | some v =>
    obtain ⟨w, hb, hlabel⟩ := Option.map_eq_some_iff.mp (hpath.symm.trans (congrArg _ ha))
    rw [hb]
    refine congrArg some (label_congr hlabel.symm fun m n hm hn ↦ ?_)
    subst hm hn
    exact hnum path m n ha hb

theorem rel_agree_iff {x y : Option Json} : Option.Rel (Agree f) x y ↔
    ∀ path, (x.bind (·.at? path)).map (label f) = (y.bind (·.at? path)).map (label f) := by
  constructor
  · rintro (h | _) path
    · exact h path
    · rfl
  · intro h
    cases x with
    | none =>
      cases y with
      | none => exact .none
      | some w => exact absurd (h []) (Option.some_ne_none _).symm
    | some v =>
      cases y with
      | none => exact absurd (h []) (Option.some_ne_none _)
      | some w => exact .some h

/-- Values agree if their outermost parts do and their children do. -/
theorem agree_iff : Agree f a b ↔
    label f a = label f b ∧ ∀ step, Option.Rel (Agree f) (a.child? step) (b.child? step) := by
  simp only [rel_agree_iff]
  constructor
  · exact fun h ↦ ⟨Option.some_inj.mp (h []), fun step path ↦ h (step :: path)⟩
  · rintro ⟨hlabel, hchild⟩ (_ | ⟨step, path⟩)
    · exact congrArg some hlabel
    · exact hchild step path

/-! ## Equality -/

/-- The structural equality, as a relation. -/
abbrev Equal (a b : Json) : Prop := beq a b = true

theorem rel_equal_some {v w : Json} : Option.Rel Equal (some v) (some w) ↔ Equal v w :=
  ⟨fun | .some h => h, .some⟩

theorem beqItems_iff {as bs : List Json} : beqItems as bs = true ↔
    as.length = bs.length ∧ ∀ i : ℕ, Option.Rel Equal as[i]? bs[i]? := by
  induction as generalizing bs with
  | nil =>
    cases bs with
    | nil => exact iff_of_true rfl ⟨rfl, fun _ ↦ .none⟩
    | cons b bs => exact iff_of_false Bool.false_ne_true fun h ↦ nomatch h.1
  | cons a as ih =>
    cases bs with
    | nil => exact iff_of_false Bool.false_ne_true fun h ↦ nomatch h.1
    | cons b bs =>
      rw [beqItems, Bool.and_eq_true, ih, List.length_cons, List.length_cons,
        Nat.add_right_cancel_iff]
      constructor
      · rintro ⟨hfirst, hlength, hrest⟩
        refine ⟨hlength, fun i ↦ ?_⟩
        cases i with
        | zero => exact .some hfirst
        | succ i => exact hrest i
      · rintro ⟨hlength, hall⟩
        exact ⟨rel_equal_some.mp (hall 0), hlength, fun i ↦ hall (i + 1)⟩

theorem Members.get?_eq_none {ms : Members} {key : String} (h : ∀ m ∈ ms, key < m.1) :
    ms.get? key = none :=
  List.lookup_eq_none_iff.mpr fun m hm ↦ bne_iff_ne.mpr (h m hm).ne

theorem beqMembers_iff {as bs : Members} (ha : as.Sorted) (hb : bs.Sorted) :
    beqMembers as bs = true ↔ as.map Prod.fst = bs.map Prod.fst ∧
      ∀ key, Option.Rel Equal (as.get? key) (bs.get? key) := by
  induction as generalizing bs with
  | nil =>
    cases bs with
    | nil => exact iff_of_true rfl ⟨rfl, fun _ ↦ .none⟩
    | cons n bs => exact iff_of_false Bool.false_ne_true fun h ↦ nomatch h.1
  | cons m as ih =>
    cases bs with
    | nil => exact iff_of_false Bool.false_ne_true fun h ↦ nomatch h.1
    | cons n bs =>
      obtain ⟨k, v⟩ := m
      obtain ⟨l, w⟩ := n
      obtain ⟨hafter, ha⟩ := List.pairwise_cons.mp ha
      obtain ⟨hafter', hb⟩ := List.pairwise_cons.mp hb
      simp only [beqMembers, Bool.and_eq_true, beq_iff_eq, ih ha hb, List.map_cons,
        List.cons.injEq]
      constructor
      · rintro ⟨⟨rfl, hfirst⟩, hkeys, hrest⟩
        refine ⟨⟨rfl, hkeys⟩, fun key ↦ ?_⟩
        by_cases hkey : key = k
        · rw [hkey, Members.get?, Members.get?, List.lookup_cons_self, List.lookup_cons_self]
          exact .some hfirst
        · rw [Members.get?, Members.get?, lookup_cons_of_ne hkey, lookup_cons_of_ne hkey]
          exact hrest key
      · rintro ⟨⟨rfl, hkeys⟩, hall⟩
        have hfirst := hall k
        rw [Members.get?, Members.get?, List.lookup_cons_self, List.lookup_cons_self] at hfirst
        refine ⟨⟨rfl, rel_equal_some.mp hfirst⟩, hkeys, fun key ↦ ?_⟩
        by_cases hkey : key = k
        · rw [hkey, Members.get?_eq_none hafter, Members.get?_eq_none hafter']
          exact .none
        · have hrest := hall key
          rwa [Members.get?, Members.get?, lookup_cons_of_ne hkey, lookup_cons_of_ne hkey] at hrest

theorem rel_child?_of_eq_none (ha : ∀ step, a.child? step = none)
    (hb : ∀ step, b.child? step = none) (step : Step) :
    Option.Rel Equal (a.child? step) (b.child? step) := by
  rw [ha, hb]
  exact .none

theorem rel_child?_arr {as bs : List Json} :
    (∀ step, Option.Rel Equal ((Json.arr as).child? step) ((Json.arr bs).child? step)) ↔
      ∀ i : ℕ, Option.Rel Equal as[i]? bs[i]? := by
  refine ⟨fun h i ↦ h (.item i), fun h step ↦ ?_⟩
  cases step with
  | item i => exact h i
  | member | unknown => exact .none

theorem rel_child?_obj {as bs : Members} :
    (∀ step, Option.Rel Equal ((Json.obj as).child? step) ((Json.obj bs).child? step)) ↔
      ∀ key, Option.Rel Equal (as.get? key) (bs.get? key) := by
  refine ⟨fun h key ↦ h (.member key), fun h step ↦ ?_⟩
  cases step with
  | member key => exact h key
  | item | unknown => exact .none

/-- Ordered values are equal if their outermost parts are, as far as their numbers are told apart,
and their children are. -/
theorem beq_iff (ha : a.Ordered) (hb : b.Ordered)
    (hf : ∀ m n, a = .num m → b = .num n → ((m == n) = true ↔ f m = f n)) :
    Equal a b ↔
      label f a = label f b ∧ ∀ step, Option.Rel Equal (a.child? step) (b.child? step) := by
  have hnull (step : Step) : child? .null step = none := by cases step <;> rfl
  have hbool (x : Bool) (step : Step) : child? (.bool x) step = none := by cases step <;> rfl
  have hnum (n : Number) (step : Step) : child? (.num n) step = none := by cases step <;> rfl
  have hstr (s : String) (step : Step) : child? (.str s) step = none := by cases step <;> rfl
  cases ha with
  | null =>
    cases hb with
    | null => exact iff_of_true rfl ⟨rfl, rel_child?_of_eq_none hnull hnull⟩
    | bool | num | str | arr | obj => exact iff_of_false Bool.false_ne_true fun h ↦ nomatch h.1
  | bool x =>
    cases hb with
    | bool y =>
      rw [and_iff_left (rel_child?_of_eq_none (hbool x) (hbool y)), label, label, Label.bool.injEq]
      exact beq_iff_eq
    | null | num | str | arr | obj => exact iff_of_false Bool.false_ne_true fun h ↦ nomatch h.1
  | num m =>
    cases hb with
    | num n =>
      rw [and_iff_left (rel_child?_of_eq_none (hnum m) (hnum n)), label, label, Label.num.injEq]
      exact hf m n rfl rfl
    | null | bool | str | arr | obj => exact iff_of_false Bool.false_ne_true fun h ↦ nomatch h.1
  | str s =>
    cases hb with
    | str t =>
      rw [and_iff_left (rel_child?_of_eq_none (hstr s) (hstr t)), label, label, Label.str.injEq]
      exact beq_iff_eq
    | null | bool | num | arr | obj => exact iff_of_false Bool.false_ne_true fun h ↦ nomatch h.1
  | arr h =>
    cases hb with
    | arr h' => rw [rel_child?_arr, Equal, beq, beqItems_iff, label, label, Label.arr.injEq]
    | null | bool | num | str | obj => exact iff_of_false Bool.false_ne_true fun h ↦ nomatch h.1
  | obj h =>
    cases hb with
    | obj h' => rw [rel_child?_obj, Equal, beq, beqMembers_iff h h', label, label, Label.obj.injEq]
    | null | bool | num | str | arr => exact iff_of_false Bool.false_ne_true fun h ↦ nomatch h.1

/-! ## Values all of whose numbers have a property -/

/-- The numbers anywhere in the value have a property. -/
def AllNumbers (P : Number → Prop) (v : Json) : Prop :=
  ∀ path n, v.at? path = some (.num n) → P n

variable {P : Number → Prop} {step : Step}

theorem AllNumbers.child (h : v.AllNumbers P) (hw : v.child? step = some w) : w.AllNumbers P :=
  fun path n hn ↦ h (step :: path) n (by rw [at?_cons, hw]; exact hn)

theorem Ordered.child (h : v.Ordered) (hw : v.child? step = some w) : w.Ordered := by
  cases step with
  | item i =>
    cases h with
    | arr h => exact h w (List.mem_of_getElem? hw)
    | null | bool | num | str | obj => cases hw
  | member key =>
    have hget : v.get? key = some w := by cases v <;> exact hw
    exact h.of_get? hget
  | unknown => cases v <;> cases hw

theorem sizeOf_child (h : v.child? step = some w) : sizeOf w < sizeOf v := by
  cases step with
  | item i =>
    cases v with
    | arr items =>
      have hlt := List.sizeOf_lt_of_mem (List.mem_of_getElem? h)
      rw [arr.sizeOf_spec]
      omega
    | null | bool | num | str | obj => cases h
  | member key =>
    cases v with
    | obj members =>
      have hlt := List.sizeOf_lt_of_mem (mem_of_lookup h)
      rw [Prod.mk.sizeOf_spec] at hlt
      rw [obj.sizeOf_spec]
      omega
    | null | bool | num | str | arr => cases h
  | unknown => cases v <;> cases h

/-- Ordered values are equal if the same stands at every place, as far as their numbers are told
apart. -/
theorem beq_iff_agree (ha : a.Ordered) (hb : b.Ordered) (hna : a.AllNumbers P)
    (hnb : b.AllNumbers P) (hf : ∀ m n, P m → P n → ((m == n) = true ↔ f m = f n)) :
    Equal a b ↔ Agree f a b := by
  induction hsize : sizeOf a using Nat.strongRecOn generalizing a b with
  | ind size ih =>
    subst hsize
    have houter (m n) (hm : a = .num m) (hn : b = .num n) : (m == n) = true ↔ f m = f n :=
      hf m n (hna [] m (congrArg some hm)) (hnb [] n (congrArg some hn))
    rw [beq_iff ha hb houter, agree_iff]
    refine and_congr_right fun _ ↦ forall_congr' fun step ↦ ?_
    cases hv : a.child? step with
    | none =>
      cases hw : b.child? step with
      | none => exact iff_of_true .none .none
      | some w => exact iff_of_false nofun nofun
    | some v =>
      cases hw : b.child? step with
      | none => exact iff_of_false nofun nofun
      | some w =>
        have hiff := ih _ (sizeOf_child hv) (ha.child hv) (hb.child hw) (hna.child hv)
          (hnb.child hw) rfl
        exact ⟨fun | .some h => .some (hiff.mp h), fun | .some h => .some (hiff.mpr h)⟩

end Mailroom.Json
