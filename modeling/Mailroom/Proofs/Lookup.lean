/-!
# Looking up by key

What is found under a key in a list of pairs, when pairs with other keys come and go.
-/

namespace Mailroom

variable {κ β : Type} [BEq κ] [LawfulBEq κ] {l : List (κ × β)}

theorem lookup_cons_of_ne {k k' : κ} (h : k' ≠ k) (b : β) :
    ((k, b) :: l).lookup k' = l.lookup k' := by
  rw [List.lookup_cons, beq_eq_false_iff_ne.mpr h]

theorem mem_of_lookup {k : κ} {b : β} (h : l.lookup k = some b) : (k, b) ∈ l := by
  obtain ⟨before, behind, rfl, -⟩ := List.lookup_eq_some_iff.mp h
  exact List.mem_append_right _ List.mem_cons_self

/-- Removing pairs by their keys leaves what is found under the other keys. -/
theorem lookup_filter_key (p : κ → Bool) {k : κ} (h : p k = true) :
    (l.filter fun e ↦ p e.1).lookup k = l.lookup k := by
  induction l with
  | nil => rfl
  | cons e l ih =>
    rw [List.filter_cons]
    by_cases heq : k = e.1
    · subst heq
      rw [if_pos h, List.lookup_cons_self, List.lookup_cons_self]
    · rw [lookup_cons_of_ne heq]
      split
      · rw [lookup_cons_of_ne heq, ih]
      · exact ih

/-- Nothing is found under a key whose pairs were removed. -/
theorem lookup_filter_key_eq_none (p : κ → Bool) {k : κ} (h : p k = false) :
    (l.filter fun e ↦ p e.1).lookup k = none := by
  rw [List.lookup_eq_none_iff]
  intro e he
  have hne : k ≠ e.1 := by
    rintro rfl
    exact Bool.noConfusion (h.symm.trans (List.mem_filter.mp he).2)
  exact bne_iff_ne.mpr hne

/-- What is found under a key when the values are changed by their keys. -/
theorem lookup_map_snd (f : κ → β → β) (k : κ) :
    (l.map fun e ↦ (e.1, f e.1 e.2)).lookup k = (l.lookup k).map (f k) := by
  induction l with
  | nil => rfl
  | cons e l ih =>
    rw [List.map_cons]
    by_cases heq : k = e.1
    · subst heq
      rw [List.lookup_cons_self, List.lookup_cons_self, Option.map_some]
    · rw [lookup_cons_of_ne heq, lookup_cons_of_ne heq, ih]

/-- Pairs with different keys may stand in any order. -/
theorem lookup_perm {l' : List (κ × β)} (h : l.Perm l') (hkeys : (l.map Prod.fst).Nodup) (k : κ) :
    l.lookup k = l'.lookup k := by
  induction h with
  | nil => rfl
  | cons e h ih =>
    rw [List.lookup_cons, List.lookup_cons, ih (List.nodup_cons.mp hkeys).2]
  | swap e e' l =>
    have hne : e'.1 ≠ e.1 := fun heq ↦
      (List.nodup_cons.mp hkeys).1 (heq ▸ List.mem_cons_self)
    by_cases he : k = e.1
    · rw [he, lookup_cons_of_ne hne.symm, List.lookup_cons_self, List.lookup_cons_self]
    · rw [lookup_cons_of_ne he]
      by_cases he' : k = e'.1
      · rw [he', List.lookup_cons_self, List.lookup_cons_self]
      · rw [lookup_cons_of_ne he', lookup_cons_of_ne he', lookup_cons_of_ne he]
  | trans h _ ih ih' => exact (ih hkeys).trans (ih' ((h.map Prod.fst).nodup_iff.mp hkeys))

end Mailroom
