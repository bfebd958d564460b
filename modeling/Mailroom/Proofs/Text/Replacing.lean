import Mailroom.Text.Find
import Mathlib.Data.List.Infix

/-!
# Replacing a pattern

`replaceAll` goes through a text once, from left to right. Where the pattern stands it puts the new
text and goes on behind the pattern (`replaceAll_append_self`), and everywhere else it keeps the
character (`replaceAll_cons`). So it keeps every piece in which the pattern cannot begin.
-/

namespace Mailroom.Text

variable {p q : Char} {ps pattern cs rest before behind : List Char}

/-! ## Finding -/

theorem after?_append (pattern rest : List Char) :
    after? pattern (pattern ++ rest) = some rest := by
  induction pattern with
  | nil => rfl
  | cons p ps ih => rw [List.cons_append, after?, if_pos rfl, ih]

theorem after?_eq_some_iff : after? pattern cs = some rest ↔ cs = pattern ++ rest := by
  refine ⟨fun h ↦ ?_, fun h ↦ h ▸ after?_append pattern rest⟩
  fun_induction after? pattern cs with
  | case1 cs => exact Option.some.inj h
  | case2 => cases h
  | case3 p ps cs ih => rw [ih h, List.cons_append]
  | case4 => cases h

theorem after?_eq_none_iff : after? pattern cs = none ↔ ¬ pattern <+: cs := by
  rw [Option.eq_none_iff_forall_ne_some]
  refine ⟨fun h hinitial ↦ ?_, fun h rest hrest ↦ h ?_⟩
  · obtain ⟨rest, hrest⟩ := hinitial
    exact h rest (after?_eq_some_iff.mpr hrest.symm)
  · exact ⟨rest, (after?_eq_some_iff.mp hrest).symm⟩

theorem splitOnce_append_self (p : Char) (ps rest : List Char) :
    splitOnce (p :: ps) (p :: ps ++ rest) = some ([], rest) := by
  rw [List.cons_append, splitOnce, ← List.cons_append, after?_append]

theorem splitOnce_cons {c : Char} (h : ¬ pattern <+: c :: cs) :
    splitOnce pattern (c :: cs) =
      (splitOnce pattern cs).map fun (before, behind) ↦ (c :: before, behind) := by
  rw [splitOnce, after?_eq_none_iff.mpr h]

/-- What was split is put together again with the pattern. -/
theorem eq_of_splitOnce (h : splitOnce (p :: ps) cs = some (before, behind)) :
    cs = before ++ p :: ps ++ behind := by
  induction cs generalizing before with
  | nil => cases h
  | cons c cs ih =>
    rw [splitOnce] at h
    split at h
    · rename_i rest hrest
      cases h
      exact after?_eq_some_iff.mp hrest
    · obtain ⟨⟨before, _⟩, hsplit, heq⟩ := Option.map_eq_some_iff.mp h
      cases heq
      rw [ih hsplit]
      rfl

/-! ## Replacing -/

theorem replaceAll_of_splitOnce (value : List Char)
    (h : splitOnce (p :: ps) cs = some (before, behind)) :
    replaceAll p ps value cs = before ++ value ++ replaceAll p ps value behind := by
  rw [replaceAll]
  split
  · rename_i hnone
    rw [h] at hnone
    cases hnone
  · rename_i hsome
    rw [h] at hsome
    cases hsome
    rfl

theorem replaceAll_of_splitOnce_none (value : List Char) (h : splitOnce (p :: ps) cs = none) :
    replaceAll p ps value cs = cs := by
  rw [replaceAll]
  split
  · rfl
  · rename_i hsome
    rw [h] at hsome
    cases hsome

@[simp] theorem replaceAll_nil (p : Char) (ps value : List Char) :
    replaceAll p ps value [] = [] := replaceAll_of_splitOnce_none value rfl

/-- Where the pattern stands, the new text takes its place. -/
theorem replaceAll_append_self (p : Char) (ps value rest : List Char) :
    replaceAll p ps value (p :: ps ++ rest) = value ++ replaceAll p ps value rest :=
  replaceAll_of_splitOnce value (splitOnce_append_self p ps rest)

/-- A character at which the pattern does not begin is kept. -/
theorem replaceAll_cons {c : Char} (value : List Char) (h : ¬ p :: ps <+: c :: cs) :
    replaceAll p ps value (c :: cs) = c :: replaceAll p ps value cs := by
  have hsplit := splitOnce_cons h
  cases hcs : splitOnce (p :: ps) cs with
  | none =>
    rw [hcs] at hsplit
    rw [replaceAll_of_splitOnce_none value hsplit, replaceAll_of_splitOnce_none value hcs]
  | some found =>
    rw [hcs] at hsplit
    rw [replaceAll_of_splitOnce value hsplit, replaceAll_of_splitOnce value hcs]
    rfl

/-- A piece without the second character of the pattern is kept if that character does not follow
it. -/
theorem replaceAll_append_of_second (ps value : List Char) (h : q ∉ cs)
    (hrest : rest.head? ≠ some q) :
    replaceAll p (q :: ps) value (cs ++ rest) = cs ++ replaceAll p (q :: ps) value rest := by
  induction cs with
  | nil => rfl
  | cons c cs ih =>
    rw [List.mem_cons, not_or] at h
    have hkept : ¬ p :: q :: ps <+: c :: (cs ++ rest) := by
      intro hinitial
      obtain ⟨tail, htail⟩ := (List.cons_prefix_cons.mp hinitial).2
      cases cs with
      | nil => exact hrest (by rw [← List.nil_append rest, ← htail]; rfl)
      | cons d cs => exact h.2 (List.mem_cons.mpr (.inl (List.cons.inj htail).1))
    rw [List.cons_append, replaceAll_cons value hkept, ih h.2, List.cons_append]

end Mailroom.Text
