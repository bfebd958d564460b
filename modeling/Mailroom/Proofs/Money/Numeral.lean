import Mailroom.Money.Amount
import Mailroom.Proofs.Number.Plain
import Mailroom.Proofs.Text.Splitting
import Mathlib.Tactic.IntervalCases

/-!
# Numbers in the style of a language

A number in the style of a language is its plain notation with other digits, another point and
separators between groups of three digits (`Style.Writes`). It is read back by leaving the
separators out and putting each remaining character into ASCII.
-/

namespace Mailroom.Money

open Number
open Text (splitAt_cons_of_ne splitAt_cons_self)

variable {separator c : Char} {ds : List Char}

/-! ## Groups of digits -/

theorem filter_grouped (h : separator ∉ ds) :
    (grouped separator ds).filter (· != separator) = ds := by
  fun_induction grouped separator ds with
  | case1 => rfl
  | case2 d =>
    rw [List.mem_singleton] at h
    simp [Ne.symm h]
  | case3 d rest hne hthree ih =>
    rw [List.mem_cons, not_or] at h
    simp [Ne.symm h.1, ih h.2]
  | case4 d rest hne hthree ih =>
    rw [List.mem_cons, not_or] at h
    simp [Ne.symm h.1, ih h.2]

theorem not_mem_grouped (h : c ∉ ds) (hc : c ≠ separator) : c ∉ grouped separator ds := by
  fun_induction grouped separator ds with
  | case1 => exact h
  | case2 d => exact h
  | case3 d rest hne hthree ih =>
    rw [List.mem_cons, not_or] at h
    simp [h.1, hc, ih h.2]
  | case4 d rest hne hthree ih =>
    rw [List.mem_cons, not_or] at h
    simp [h.1, ih h.2]

/-- The first group has what is left over when groups of three are taken from the end. -/
theorem splitAt_grouped (h : separator ∉ ds) (hne : ds ≠ []) :
    ∃ first rest, Text.splitAt separator (grouped separator ds) = first :: rest ∧
      first.length = (ds.length - 1) % 3 + 1 ∧ ∀ group ∈ rest, group.length = 3 := by
  fun_induction grouped separator ds with
  | case1 => exact absurd rfl hne
  | case2 d =>
    have hd : d ≠ separator := fun heq ↦ h (heq ▸ List.mem_singleton_self d)
    exact ⟨[d], [], splitAt_cons_of_ne hd rfl, rfl, nofun⟩
  | case3 d rest hrest hthree ih =>
    rw [List.mem_cons, not_or] at h
    obtain ⟨first, groups, hsplit, hlength, hgroups⟩ := ih h.2 hrest
    have hpos := List.length_pos_iff.mpr hrest
    refine ⟨[d], first :: groups, ?_, ?_, List.forall_mem_cons.mpr ⟨?_, hgroups⟩⟩
    · rw [splitAt_cons_of_ne (Ne.symm h.1) (splitAt_cons_self separator _), hsplit]
    · rw [List.length_singleton, List.length_cons, Nat.add_sub_cancel, hthree]
    · omega
  | case4 d rest hrest hthree ih =>
    rw [List.mem_cons, not_or] at h
    obtain ⟨first, groups, hsplit, hlength, hgroups⟩ := ih h.2 hrest
    have hpos := List.length_pos_iff.mpr hrest
    refine ⟨d :: first, groups, splitAt_cons_of_ne (Ne.symm h.1) hsplit, ?_, hgroups⟩
    rw [List.length_cons, List.length_cons, Nat.add_sub_cancel]
    omega

/-- Groups of three, of which the first one may be shorter. -/
structure AreThrees (first : List Char) (rest : List (List Char)) : Prop where
  first_pos : 1 ≤ first.length
  first_le : first.length ≤ 3
  rest_eq : ∀ group ∈ rest, group.length = 3

/-! ## Styles -/

namespace Style

variable {s : Style}

/-- The ASCII character for a character of a number: a digit, or the point. -/
def ascii (s : Style) (c : Char) : Char :=
  if c = s.point then '.' else Char.ofNat ('0'.toNat + (c.toNat - s.zero.toNat))

theorem ascii_point (s : Style) : s.ascii s.point = '.' := if_pos rfl

/-- The digits and the two separators of a style can be told apart. -/
structure IsLegible (s : Style) : Prop where
  group_ne_point : s.group ≠ s.point
  digit_ne_group : ∀ d : Char, d.isDigit = true → s.digit d ≠ s.group
  digit_ne_point : ∀ d : Char, d.isDigit = true → s.digit d ≠ s.point
  ascii_digit : ∀ d : Char, d.isDigit = true → s.ascii (s.digit d) = d

theorem mem_of_isDigit (h : c.isDigit = true) : c ∈ "0123456789".toList := by
  have hten := digit_lt_ten h
  obtain ⟨k, hk⟩ := Nat.exists_eq_add_of_le (Char.isDigit_iff_toNat.mp h).1
  rw [hk, Nat.add_sub_cancel_left] at hten
  rw [← Char.ofNat_toNat c, hk]
  interval_cases k <;> decide

theorem isLegible_of_digits (hpoint : s.group ≠ s.point)
    (hgroup : s.group ∉ "0123456789".toList.map s.digit)
    (hmarks : s.point ∉ "0123456789".toList.map s.digit)
    (hdigits : "0123456789".toList.map (s.ascii ∘ s.digit) = "0123456789".toList.map id) :
    s.IsLegible where
  group_ne_point := hpoint
  digit_ne_group d hd heq := hgroup (List.mem_map.mpr ⟨d, mem_of_isDigit hd, heq⟩)
  digit_ne_point d hd heq := hmarks (List.mem_map.mpr ⟨d, mem_of_isDigit hd, heq⟩)
  ascii_digit d hd := List.map_inj_left.mp hdigits d (mem_of_isDigit hd)

theorem isLegible_ofTag (tag : String) : (ofTag tag).IsLegible := by
  unfold ofTag
  split_ifs
  all_goals exact isLegible_of_digits (by decide) (by decide) (by decide) (by decide)

/-- A number in a style reads as `n / 10 ^ places`: without the separators and in ASCII it is the
plain notation, and the separators make groups of three of the digits before the point. -/
structure Writes (s : Style) (places n : ℕ) (number : List Char) : Prop where
  reads : ∃ whole fraction, IsPlain places n whole fraction ∧
    (number.filter (· != s.group)).map s.ascii =
      whole ++ if places = 0 then [] else '.' :: fraction
  groups : ∃ first rest, AreThrees first rest ∧
    Text.splitAt s.group (number.takeWhile (· != s.point)) = first :: rest
  group_not_mem : s.group ∉ number.dropWhile (· != s.point)

namespace IsLegible

variable (h : s.IsLegible)
include h

theorem group_not_mem (hds : IsDigits ds) : s.group ∉ ds.map s.digit := by
  intro hmem
  obtain ⟨d, hd, heq⟩ := List.mem_map.mp hmem
  exact h.digit_ne_group d (hds d hd) heq

theorem point_not_mem (hds : IsDigits ds) : s.point ∉ ds.map s.digit := by
  intro hmem
  obtain ⟨d, hd, heq⟩ := List.mem_map.mp hmem
  exact h.digit_ne_point d (hds d hd) heq

theorem map_ascii (hds : IsDigits ds) : (ds.map s.digit).map s.ascii = ds := by
  rw [List.map_map]
  exact List.map_congr_left (fun d hd ↦ h.ascii_digit d (hds d hd)) |>.trans (List.map_id ds)

theorem writes_append {places n : ℕ} {whole fraction : List Char}
    (hplain : IsPlain places n whole fraction) :
    s.Writes places n (grouped s.group (whole.map s.digit) ++
      if places = 0 then [] else s.point :: fraction.map s.digit) := by
  have hwhole := h.group_not_mem hplain.whole_digits
  have hfraction := h.group_not_mem hplain.fraction_digits
  have hpoint : ∀ c ∈ grouped s.group (whole.map s.digit), (c != s.point) = true := by
    intro c hc
    rw [bne_iff_ne]
    rintro rfl
    exact not_mem_grouped (h.point_not_mem hplain.whole_digits) h.group_ne_point.symm hc
  -- What stands behind the groups begins with the point, or is nothing.
  have htake : (if places = 0 then [] else s.point :: fraction.map s.digit).takeWhile
      (· != s.point) = [] := by
    split_ifs <;> simp
  have hdrop : (if places = 0 then [] else s.point :: fraction.map s.digit).dropWhile
      (· != s.point) = if places = 0 then [] else s.point :: fraction.map s.digit := by
    split_ifs <;> simp
  refine ⟨⟨whole, fraction, hplain, ?_⟩, ?_, ?_⟩
  · rw [List.filter_append, filter_grouped hwhole, List.map_append, h.map_ascii hplain.whole_digits]
    congr 1
    split_ifs
    · rfl
    · have hkept : (fraction.map s.digit).filter (· != s.group) = fraction.map s.digit :=
        List.filter_eq_self.mpr fun c hc ↦ bne_iff_ne.mpr fun heq ↦ hfraction (heq ▸ hc)
      rw [List.filter_cons_of_pos (by simpa using h.group_ne_point.symm), hkept, List.map_cons,
        s.ascii_point, h.map_ascii hplain.fraction_digits]
  · have hne : whole.map s.digit ≠ [] := by simpa using hplain.whole_ne_nil
    obtain ⟨first, rest, hsplit, hlength, hrest⟩ := splitAt_grouped hwhole hne
    refine ⟨first, rest, ⟨by omega, by omega, hrest⟩, ?_⟩
    rw [List.takeWhile_append_of_pos hpoint, htake, List.append_nil, hsplit]
  · rw [List.dropWhile_append_of_pos hpoint, hdrop]
    split_ifs
    · exact List.not_mem_nil
    · exact List.not_mem_cons_of_ne_of_not_mem h.group_ne_point hfraction

theorem writes_number (places n : ℕ) : s.Writes places n (s.number places n) := by
  obtain ⟨k, hk⟩ := Nat.exists_eq_add_of_le' (lt_length_zeroPadded places n).le
  have hnumber := h.writes_append (isPlain_zeroPadded hk)
  unfold number
  dsimp only
  rw [hk, Nat.add_sub_cancel]
  exact hnumber

end IsLegible

end Style

end Mailroom.Money
