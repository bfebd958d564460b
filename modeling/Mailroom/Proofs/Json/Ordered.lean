import Mailroom.Json.Reader
import Mailroom.Proofs.Json.Members

/-!
# Values whose members are in order

What is read from a text is a value in which the members of every object are in the order of their
keys, whatever order they are written in (`ordered_of_read`).
-/

namespace Mailroom.Json

/-- The members of every object in the value are in the order of their keys. -/
inductive Ordered : Json → Prop
  | null : Ordered .null
  | bool (b : Bool) : Ordered (.bool b)
  | num (n : Json.Number) : Ordered (.num n)
  | str (s : String) : Ordered (.str s)
  | arr {items : List Json} (h : ∀ v ∈ items, Ordered v) : Ordered (.arr items)
  | obj {ms : Members} (hsorted : ms.Sorted) (h : ∀ m ∈ ms, Ordered m.2) : Ordered (.obj ms)

theorem Ordered.of_get? {v w : Json} {key : String} (h : v.Ordered) (hget : v.get? key = some w) :
    w.Ordered := by
  cases h with
  | obj hsorted hall => exact hall _ (hsorted.mem_iff.mpr hget)
  | null | bool | num | str | arr => cases hget

/-- The members are those of an ordered object. -/
structure Members.Ordered (ms : Members) : Prop where
  sorted : ms.Sorted
  values : ∀ m ∈ ms, m.2.Ordered

theorem Members.Ordered.insert {ms : Members} (h : ms.Ordered) {v : Json} (hv : v.Ordered)
    (key : String) : Members.Ordered (ms.insert key v) := by
  refine ⟨h.sorted.insert key v, fun m hm ↦ ?_⟩
  rcases eq_or_mem_of_mem_insert hm with rfl | hm
  · exact hv
  · exact h.values m hm

/-! ## Reading -/

/-- What is read, if anything is, has a property. -/
def IfRead {α : Type} (P : α → Prop) (r : Except ReadError α) : Prop := ∀ a, r = .ok a → P a

namespace IfRead

variable {α β : Type} {P : α → Prop} {Q : β → Prop}

theorem error {e : ReadError} : IfRead P (.error e) := nofun

theorem ok {a : α} (h : P a) : IfRead P (.ok a) := fun _ heq ↦ Except.ok.inj heq ▸ h

theorem bind {x : Except ReadError α} {f : α → Except ReadError β} (hx : IfRead P x)
    (hf : ∀ a, P a → IfRead Q (f a)) : IfRead Q (x >>= f) := by
  cases x with
  | error e => exact error
  | ok a => exact hf a (hx a rfl)

theorem inside {r : Except ReadError α} (h : IfRead P r) (step : Step) :
    IfRead P (Json.inside step r) := by
  cases r with
  | error e => exact error
  | ok a => exact ok (h a rfl)

theorem failNext {i : Input} {f : Fault} : IfRead P (i.failNext f) := by
  unfold Input.failNext
  split <;> exact error

theorem any {x : Except ReadError α} : IfRead (fun _ ↦ True) x := fun _ _ ↦ trivial

end IfRead

/-- Every part of the reader gives ordered values. -/
structure ReadsOrdered (fuel : Nat) : Prop where
  value : ∀ depth i, IfRead (·.1.Ordered) (readValue fuel depth i)
  items : ∀ depth n i, IfRead (∀ v ∈ ·.1, v.Ordered) (readItems fuel depth n i)
  item : ∀ depth n i, IfRead (∀ v ∈ ·.1, v.Ordered) (readItem fuel depth n i)
  members : ∀ depth first {acc : Members} i, acc.Ordered →
    IfRead (fun p ↦ Members.Ordered p.1) (readMembers fuel depth first acc i)
  member : ∀ depth {acc : Members} i, acc.Ordered →
    IfRead (fun p ↦ Members.Ordered p.1) (readMember fuel depth acc i)

theorem readsOrdered (fuel : Nat) : ReadsOrdered fuel := by
  induction fuel with
  | zero =>
    refine ⟨fun _ _ ↦ ?_, fun _ _ _ ↦ ?_, fun _ _ _ ↦ ?_, fun _ _ _ _ _ ↦ ?_, fun _ _ _ _ ↦ ?_⟩
    all_goals simp only [readValue, readItems, readItem, readMembers, readMember]
    all_goals exact .error
  | succ fuel ih =>
    refine ⟨fun depth i ↦ ?_, fun depth n i ↦ ?_, fun depth n i ↦ ?_,
      fun depth first acc i hacc ↦ ?_, fun depth acc i hacc ↦ ?_⟩
    · rw [readValue]
      dsimp only
      split
      · exact .failNext
      · exact .bind .any fun _ _ ↦ .ok .null
      · exact .bind .any fun _ _ ↦ .ok (.bool true)
      · exact .bind .any fun _ _ ↦ .ok (.bool false)
      · exact .bind .any fun p _ ↦ .ok (.num p.1)
      · exact .bind .any fun p _ ↦ .ok (.str p.1)
      · split
        · exact .failNext
        · exact .bind (ih.items _ _ _) fun _ h ↦ .ok (.arr h)
      · split
        · exact .failNext
        · exact .bind (ih.members _ _ _ ⟨List.Pairwise.nil, List.forall_mem_nil _⟩) fun _ h ↦
            .ok (.obj h.sorted h.values)
      · split
        · exact .bind .any fun p _ ↦ .ok (.num p.1)
        · exact .failNext
    · rw [readItems]
      dsimp only
      split
      · exact .inside .failNext _
      · exact .ok (List.forall_mem_nil _)
      · split
        · exact ih.item _ _ _
        · split
          · split
            · exact .inside .failNext _
            · exact .inside .failNext _
            · exact ih.item _ _ _
          · exact .inside .failNext _
    · rw [readItem]
      exact .bind ((ih.value _ _).inside _) fun _ hv ↦ .bind (ih.items _ _ _) fun _ hrest ↦
        .ok (List.forall_mem_cons.mpr ⟨hv, hrest⟩)
    · rw [readMembers]
      dsimp only
      split
      · exact .inside .failNext _
      · exact .ok hacc
      · split
        · split
          · exact ih.member _ _ hacc
          · exact .inside .failNext _
        · split
          · split
            · exact .inside .failNext _
            · exact ih.member _ _ hacc
            · exact .inside .failNext _
            · exact .inside .failNext _
          · exact .inside .failNext _
    · rw [readMember]
      refine .bind (.inside .any _) fun _ _ ↦ ?_
      dsimp only
      split
      · exact .inside .failNext _
      · exact .bind ((ih.value _ _).inside _) fun _ hv ↦ ih.members _ _ _ (hacc.insert hv _)
      · exact .inside .failNext _

/-- What is read from a text is ordered. -/
theorem ordered_of_read {text : String} {v : Json} (h : read text = .ok v) : v.Ordered := by
  refine IfRead.bind ((readsOrdered _).value _ _) (fun p hp ↦ ?_) v h
  dsimp only
  split
  · exact .ok hp
  · exact .failNext

end Mailroom.Json
