import Mailroom.Json.Basic
import Mailroom.Proofs.Lookup
import Mathlib.Order.Basic
import Mathlib.Data.String.Basic

/-!
# Members in the order of their keys

The members of an object are kept in the order of their keys, and a key occurs once (`Sorted`).
Putting a member in keeps them so, and so does everything that leaves the keys alone or takes
members away. What is found under a key after a member was put in does not depend on the order, but
that putting the same member in again changes nothing does.
-/

namespace Mailroom.Json.Members

variable {ms : Members} {key : String} {value : Json}

/-- Putting a member in leaves the other members as they are. -/
theorem get?_insert (key name : String) (value : Json) (ms : Members) :
    (ms.insert key value).get? name = if name = key then some value else ms.get? name := by
  by_cases hname : name = key
  · rw [if_pos hname, hname, get?_insert_self]
  · rw [if_neg hname]
    induction ms with
    | nil => exact lookup_cons_of_ne hname value
    | cons m ms ih =>
      obtain ⟨k, v⟩ := m
      rw [insert]
      split_ifs with hlt heq
      · exact lookup_cons_of_ne hname value
      · rw [get?, get?, lookup_cons_of_ne hname, lookup_cons_of_ne (heq ▸ hname)]
      · rw [get?, get?, List.lookup_cons, List.lookup_cons]
        split
        · rfl
        · exact ih

/-- The keys ascend. -/
def Sorted (ms : Members) : Prop := ms.Pairwise fun m n ↦ m.1 < n.1

instance : DecidablePred Sorted := fun ms ↦
  inferInstanceAs (Decidable (ms.Pairwise fun m n ↦ m.1 < n.1))

theorem eq_or_mem_of_mem_insert {m : String × Json} (h : m ∈ ms.insert key value) :
    m = (key, value) ∨ m ∈ ms := by
  induction ms with
  | nil => exact .inl (List.mem_singleton.mp h)
  | cons n ms ih =>
    obtain ⟨k, v⟩ := n
    rw [insert] at h
    split_ifs at h
    · exact List.mem_cons.mp h
    · exact (List.mem_cons.mp h).imp_right (List.mem_cons_of_mem _)
    · rcases List.mem_cons.mp h with rfl | hm
      · exact .inr List.mem_cons_self
      · exact (ih hm).imp_right (List.mem_cons_of_mem _)

namespace Sorted

theorem insert (h : ms.Sorted) (key : String) (value : Json) : (ms.insert key value).Sorted := by
  induction ms with
  | nil => exact List.pairwise_singleton _ _
  | cons n ms ih =>
    obtain ⟨k, v⟩ := n
    obtain ⟨hfirst, hrest⟩ := List.pairwise_cons.mp h
    rw [Members.insert]
    split_ifs with hlt heq
    · refine h.cons fun m hm ↦ ?_
      rcases List.mem_cons.mp hm with rfl | hm
      · exact hlt
      · exact hlt.trans (hfirst m hm)
    · exact hrest.cons fun m hm ↦ heq ▸ hfirst m hm
    · refine (ih hrest).cons fun m hm ↦ ?_
      rcases eq_or_mem_of_mem_insert hm with rfl | hm
      · exact lt_of_le_of_ne (not_lt.mp hlt) (Ne.symm heq)
      · exact hfirst m hm

theorem filter (h : ms.Sorted) (p : String × Json → Bool) : Sorted (ms.filter p) :=
  List.Pairwise.filter p h

/-- Changing the values keeps the members in order. -/
theorem map (h : ms.Sorted) {f : String × Json → String × Json} (hf : ∀ m, (f m).1 = m.1) :
    Sorted (ms.map f) :=
  List.Pairwise.map f (fun m n hlt ↦ by rwa [hf, hf]) h

/-- Putting in a member that is there already changes nothing. -/
theorem insert_eq_self (h : ms.Sorted) (hget : ms.get? key = some value) :
    ms.insert key value = ms := by
  induction ms with
  | nil => cases hget
  | cons n ms ih =>
    obtain ⟨k, v⟩ := n
    obtain ⟨hfirst, hrest⟩ := List.pairwise_cons.mp h
    rw [Members.insert]
    by_cases heq : key = k
    · subst heq
      rw [get?, List.lookup_cons_self, Option.some_inj] at hget
      rw [if_neg (lt_irrefl key), if_pos rfl, hget]
    · rw [get?, lookup_cons_of_ne heq] at hget
      obtain ⟨m, hm, rfl⟩ : ∃ m ∈ ms, m.1 = key := by
        obtain ⟨before, after, rfl, -⟩ := List.lookup_eq_some_iff.mp hget
        exact ⟨(key, value), List.mem_append_right _ List.mem_cons_self, rfl⟩
      rw [if_neg (hfirst m hm).asymm, if_neg heq, ih hrest hget]

/-- A member of an object is what is found under its key. -/
theorem mem_iff (h : ms.Sorted) {v : Json} : (key, v) ∈ ms ↔ ms.get? key = some v := by
  induction ms with
  | nil => exact iff_of_false List.not_mem_nil nofun
  | cons m ms ih =>
    obtain ⟨hfirst, hrest⟩ := List.pairwise_cons.mp h
    obtain ⟨k, w⟩ := m
    rw [List.mem_cons, ih hrest]
    by_cases hkey : key = k
    · subst hkey
      have hnot : get? ms key ≠ some v := fun hget ↦ lt_irrefl key (hfirst _ ((ih hrest).mpr hget))
      rw [get?.eq_1 (_ :: _), List.lookup_cons_self, Option.some_inj, Prod.mk.injEq]
      exact ⟨fun hor ↦ (hor.resolve_right hnot).2.symm, fun heq ↦ .inl ⟨rfl, heq.symm⟩⟩
    · rw [get?, get?, lookup_cons_of_ne hkey, Prod.mk.injEq]
      exact or_iff_right fun heq ↦ hkey heq.1

end Sorted

/-- An object that is made from members in any order has them in the order of their keys. -/
theorem sorted_ofList (members : List (String × Json)) : (ofList members).Sorted :=
  List.foldlRecOn (motive := Sorted) members _ List.Pairwise.nil fun _ h m _ ↦ h.insert m.1 m.2

end Mailroom.Json.Members
