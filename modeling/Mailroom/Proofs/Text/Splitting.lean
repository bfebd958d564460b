import Mailroom.Text.Find
import Mathlib.Data.List.Basic

/-!
# Parts between separators

A text is its first part and then the other ones, each behind a separator. The parts that
`splitAt` finds are the only ones without a separator in them of which the text consists
(`splitAt_append`).
-/

namespace Mailroom.Text

variable {sep c : Char} {cs first : List Char} {rest : List (List Char)}

/-- Some parts, each with a separator in front. -/
def separated (sep : Char) (parts : List (List Char)) : List Char := parts.flatMap (sep :: ·)

@[simp] theorem separated_nil (sep : Char) : separated sep [] = [] := rfl

@[simp] theorem separated_cons (sep : Char) (part : List Char) (parts : List (List Char)) :
    separated sep (part :: parts) = sep :: (part ++ separated sep parts) := rfl

theorem splitAt_cons_self (sep : Char) (cs : List Char) :
    splitAt sep (sep :: cs) = [] :: splitAt sep cs := by
  rw [splitAt, if_pos rfl]

theorem splitAt_cons_of_ne (hc : c ≠ sep) (h : splitAt sep cs = first :: rest) :
    splitAt sep (c :: cs) = (c :: first) :: rest := by
  rw [splitAt, if_neg hc, h]

/-- The parts of a text make up the text. -/
theorem exists_splitAt_eq (sep : Char) (cs : List Char) :
    ∃ first rest, splitAt sep cs = first :: rest ∧ cs = first ++ separated sep rest := by
  induction cs with
  | nil => exact ⟨[], [], rfl, rfl⟩
  | cons c cs ih =>
    obtain ⟨first, rest, hsplit, hcs⟩ := ih
    by_cases hc : c = sep
    · subst hc
      refine ⟨[], first :: rest, ?_, ?_⟩
      · rw [splitAt_cons_self, hsplit]
      · rw [separated_cons, List.nil_append, hcs]
    · refine ⟨c :: first, rest, splitAt_cons_of_ne hc hsplit, ?_⟩
      rw [List.cons_append, ← hcs]

theorem splitAt_of_not_mem (h : sep ∉ cs) : splitAt sep cs = [cs] := by
  induction cs with
  | nil => rfl
  | cons c cs ih =>
    rw [List.mem_cons, not_or] at h
    exact splitAt_cons_of_ne (Ne.symm h.1) (ih h.2)

theorem splitAt_append_cons_self (h : sep ∉ first) (cs : List Char) :
    splitAt sep (first ++ sep :: cs) = first :: splitAt sep cs := by
  induction first with
  | nil => exact splitAt_cons_self sep cs
  | cons c first ih =>
    rw [List.mem_cons, not_or] at h
    exact splitAt_cons_of_ne (Ne.symm h.1) (ih h.2)

theorem splitAt_append (hfirst : sep ∉ first) (hrest : ∀ part ∈ rest, sep ∉ part) :
    splitAt sep (first ++ separated sep rest) = first :: rest := by
  induction rest generalizing first with
  | nil =>
    rw [separated_nil, List.append_nil]
    exact splitAt_of_not_mem hfirst
  | cons part rest ih =>
    obtain ⟨hpart, hrest⟩ := List.forall_mem_cons.mp hrest
    rw [separated_cons, splitAt_append_cons_self hfirst, ih hpart hrest]

theorem mem_separated (hne : c ≠ sep) : c ∈ separated sep rest ↔ ∃ part ∈ rest, c ∈ part := by
  simp [separated, hne]

/-- A character that is no separator is in one of the parts. -/
theorem exists_mem_splitAt (hc : c ∈ cs) (hne : c ≠ sep) : ∃ part ∈ splitAt sep cs, c ∈ part := by
  obtain ⟨first, rest, hsplit, rfl⟩ := exists_splitAt_eq sep cs
  rw [hsplit]
  rcases List.mem_append.mp hc with hfirst | hrest
  · exact ⟨first, List.mem_cons_self, hfirst⟩
  · obtain ⟨part, hpart, hin⟩ := (mem_separated hne).mp hrest
    exact ⟨part, List.mem_cons_of_mem _ hpart, hin⟩

end Mailroom.Text
