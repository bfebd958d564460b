import Mailroom.Text.Blank
import Mathlib.Data.List.Basic

/-!
# Blanks around a text

What is left of a text that is known as far as its blanks go, when they are removed from its ends.
-/

namespace Mailroom.Text

variable {cs before after : List Char} {c : Char}

/-- Nothing but blanks. -/
def AreBlanks (cs : List Char) : Prop := ∀ c ∈ cs, isBlank c = true

/-- No blank stands in front of a text. -/
def NotBlank (cs : List Char) : Prop := ∀ c ∈ cs.head?, isBlank c = false

@[simp] theorem notBlank_nil : NotBlank [] := nofun

@[simp] theorem notBlank_cons : NotBlank (c :: cs) ↔ isBlank c = false := by
  simp [NotBlank]

theorem notBlank_append_cons {rest : List Char} (hcs : NotBlank cs) (hc : isBlank c = false) :
    NotBlank (cs ++ c :: rest) := by
  cases cs with
  | nil => exact notBlank_cons.mpr hc
  | cons d cs => exact notBlank_cons.mpr (notBlank_cons.mp hcs)

instance : DecidablePred NotBlank
  | [] => isTrue notBlank_nil
  | _ :: _ => decidable_of_iff _ notBlank_cons.symm

theorem isBlank_of_isDigit (h : c.isDigit = true) : isBlank c = false := by
  rw [Char.isDigit_iff_toNat] at h
  have hlow : 48 ≤ c.toNat := h.1
  have hhigh : c.toNat ≤ 57 := h.2
  simp only [isBlank, Bool.or_eq_false_iff, Bool.and_eq_false_iff, decide_eq_false_iff_not,
    beq_eq_false_iff_ne]
  omega

theorem trimLeft_append (hbefore : AreBlanks before) (hcs : NotBlank cs) :
    trimLeft (before ++ cs) = cs := by
  rw [trimLeft, List.dropWhile_append_of_pos hbefore]
  cases cs with
  | nil => rfl
  | cons c cs => rw [List.dropWhile_cons_of_neg (by simp [notBlank_cons.mp hcs])]

theorem trimLeft_of_notBlank (hcs : NotBlank cs) : trimLeft cs = cs :=
  have hnil : AreBlanks [] := nofun
  trimLeft_append hnil hcs

theorem trimLeft_append_cons (hc : isBlank c = false) (before cs : List Char) :
    trimLeft (before ++ c :: cs) = trimLeft before ++ c :: cs := by
  have hkept : trimLeft (c :: cs) = c :: cs := trimLeft_of_notBlank (notBlank_cons.mpr hc)
  rw [trimLeft] at hkept
  rw [trimLeft, trimLeft, List.dropWhile_append, hkept]
  split
  · rename_i hempty
    rw [List.isEmpty_iff.mp hempty, List.nil_append]
  · rfl

theorem notBlank_trimLeft (cs : List Char) : NotBlank (trimLeft cs) := by
  intro c hc
  have hhead := List.head?_dropWhile_not isBlank cs
  rw [trimLeft] at hc
  rwa [hc] at hhead

theorem trimLeft_eq_self_iff : trimLeft cs = cs ↔ NotBlank cs :=
  ⟨fun h ↦ h ▸ notBlank_trimLeft cs, trimLeft_of_notBlank⟩

theorem trimRight_append (hcs : NotBlank cs.reverse) (hafter : AreBlanks after) :
    trimRight (cs ++ after) = cs := by
  have hreverse : AreBlanks after.reverse := fun c hc ↦ hafter c (List.mem_reverse.mp hc)
  have htrim := trimLeft_append hreverse hcs
  rw [trimLeft, ← List.reverse_append] at htrim
  rw [trimRight, htrim, List.reverse_reverse]

/-- A character that is no blank stays in front. -/
theorem exists_trim_eq_cons (h : isBlank c = false) (cs : List Char) :
    ∃ cs', (trim (String.ofList (c :: cs))).toList = c :: cs' := by
  have hleft : trimLeft (c :: cs) = c :: cs := trimLeft_of_notBlank (notBlank_cons.mpr h)
  have hright : ∃ cs', trimRight (c :: cs) = c :: cs' := by
    rw [trimRight, List.reverse_cons, List.dropWhile_append]
    split
    · exact ⟨[], by rw [List.dropWhile_cons_of_neg (by simp [h])]; rfl⟩
    · exact ⟨(cs.reverse.dropWhile isBlank).reverse, by simp⟩
  rwa [trim, String.toList_ofList, String.toList_ofList, hleft]

theorem notBlank_reverse_append (hne : cs ≠ []) (hcs : ∀ c ∈ cs, isBlank c = false)
    (before : List Char) : NotBlank (before ++ cs).reverse := by
  intro c hc
  rw [List.head?_reverse, List.getLast?_append, List.getLast?_eq_some_getLast hne] at hc
  obtain rfl := Option.some.inj hc
  exact hcs _ (List.getLast_mem hne)

theorem trim_ofList (hcs : NotBlank cs) (hcs' : NotBlank cs.reverse) :
    trim (String.ofList cs) = String.ofList cs := by
  have hnil : AreBlanks [] := nofun
  have hright := trimRight_append hcs' hnil
  rw [List.append_nil] at hright
  rw [trim, String.toList_ofList, trimLeft_of_notBlank hcs, hright]

theorem trim_of_not_isBlank (h : ∀ c ∈ cs, isBlank c = false) :
    trim (String.ofList cs) = String.ofList cs :=
  trim_ofList (fun c hc ↦ h c (List.mem_of_head? hc))
    fun c hc ↦ h c (List.mem_reverse.mp (List.mem_of_head? hc))

end Mailroom.Text
