import Mailroom.Proofs.Calendar.Readers

/-!
# Names of months

A name of a month from the table of names is found in any case of its ASCII letters
(`monthOfWord_of_isMonthWord`), since its letters carry no marks and have no other lower-case form.
An English name is found in front of a text, in full or cut to three letters
(`takeMonth_of_isEnglishMonth`).
-/

namespace Mailroom.Calendar

open Number Text

variable {cs rest word : List Char} {c : Char} {month : Nat}

/-! ## The letters of names -/

/-- A letter that the names of the months are written with, in lower case. -/
def isNameLetter (c : Char) : Bool :=
  ('a' ≤ c && c ≤ 'z') || (0x5D0 ≤ c.toNat && c.toNat ≤ 0x5EA)
    || (0x627 ≤ c.toNat && c.toNat ≤ 0x64A)

/-- Only the capitals of ASCII have another lower-case form. -/
theorem toLower_eq_or_capital (c : Char) : c.toLower = c ∨ (65 ≤ c.toNat ∧ c.toNat ≤ 90) := by
  unfold Char.toLower
  split
  · rename_i h
    exact .inr ⟨UInt32.le_iff_toNat_le.mp h.1, UInt32.le_iff_toNat_le.mp h.2⟩
  · exact .inl rfl

/-- In which ranges a letter of a name lies, whatever its case. -/
theorem ranges_of_isNameLetter (h : isNameLetter c.toLower = true) :
    (65 ≤ c.toNat ∧ c.toNat ≤ 122) ∨
      (c.toLower = c ∧
        ((0x5D0 ≤ c.toNat ∧ c.toNat ≤ 0x5EA) ∨ (0x627 ≤ c.toNat ∧ c.toNat ≤ 0x64A))) := by
  rcases toLower_eq_or_capital c with hlower | hcapital
  · rw [hlower] at h ⊢
    simp only [isNameLetter, Bool.or_eq_true, Bool.and_eq_true, decide_eq_true_eq] at h
    rcases h with (⟨ha, hz⟩ | hhebrew) | harabic
    · have hlow : 97 ≤ c.toNat := UInt32.le_iff_toNat_le.mp ha
      have hhigh : c.toNat ≤ 122 := UInt32.le_iff_toNat_le.mp hz
      exact .inl ⟨by omega, hhigh⟩
    · exact .inr ⟨rfl, .inl hhebrew⟩
    · exact .inr ⟨rfl, .inr harabic⟩
  · exact .inl ⟨hcapital.1, by omega⟩

theorem isBlank_of_isNameLetter (h : isNameLetter c.toLower = true) : isBlank c = false := by
  have hrange := ranges_of_isNameLetter h
  simp only [isBlank, Bool.or_eq_false_iff, Bool.and_eq_false_iff, decide_eq_false_iff_not,
    beq_eq_false_iff_ne]
  omega

/-- The ASCII letters lie between the capital A and the small z. -/
theorem range_of_isAlpha (h : c.isAlpha = true) : 65 ≤ c.toNat ∧ c.toNat ≤ 122 := by
  rcases (Bool.or_eq_true _ _).mp h with hupper | hlower
  · obtain ⟨hlow, hhigh⟩ := of_decide_eq_true hupper
    have hlow : 65 ≤ c.toNat := UInt32.le_iff_toNat_le.mp hlow
    have hhigh : c.toNat ≤ 90 := UInt32.le_iff_toNat_le.mp hhigh
    exact ⟨hlow, by omega⟩
  · obtain ⟨hlow, hhigh⟩ := (Bool.and_eq_true _ _).mp hlower
    have hlow : 97 ≤ c.toNat := UInt32.le_iff_toNat_le.mp (of_decide_eq_true hlow)
    have hhigh : c.toNat ≤ 122 := UInt32.le_iff_toNat_le.mp (of_decide_eq_true hhigh)
    exact ⟨by omega, hhigh⟩

/-- A blank is no letter. -/
theorem isAlpha_of_isBlank (h : isBlank c = true) : c.toLower.isAlpha = false := by
  have hletter : ¬ (65 ≤ c.toNat ∧ c.toNat ≤ 122) := by
    simp only [isBlank, Bool.or_eq_true, Bool.and_eq_true, decide_eq_true_eq, beq_iff_eq] at h
    omega
  have hlower := (toLower_eq_or_capital c).resolve_right (by omega)
  rw [hlower, Bool.eq_false_iff]
  exact fun halpha ↦ hletter (range_of_isAlpha halpha)

theorem isDigit_of_isNameLetter (h : isNameLetter c.toLower = true) : c.isDigit = false := by
  have hrange := ranges_of_isNameLetter h
  rw [Bool.eq_false_iff, Ne, Char.isDigit_iff_toNat]
  rintro ⟨hlow, hhigh⟩
  have hhigh : c.toNat ≤ 57 := hhigh
  omega

theorem ne_of_isNameLetter (h : isNameLetter c.toLower = true) {s : Char}
    (hs : isNameLetter s.toLower = false) : c ≠ s := by
  rintro rfl
  rw [h] at hs
  cases hs

/-- Nothing but letters of names, and one of them at least. -/
structure IsWord (word : List Char) : Prop where
  letters : ∀ c ∈ word, isNameLetter c.toLower = true
  ne_nil : word ≠ []

namespace IsWord

theorem ends (h : IsWord word) (rest : List Char) : Ends (word ++ rest) := by
  obtain ⟨hletters, hne⟩ := h
  obtain ⟨c, cs, rfl⟩ := List.exists_cons_of_ne_nil hne
  exact ends_cons.mpr (isDigit_of_isNameLetter (hletters c List.mem_cons_self))

theorem notBlank (h : IsWord word) (rest : List Char) : NotBlank (word ++ rest) := by
  obtain ⟨hletters, hne⟩ := h
  obtain ⟨c, cs, rfl⟩ := List.exists_cons_of_ne_nil hne
  exact notBlank_cons.mpr (isBlank_of_isNameLetter (hletters c List.mem_cons_self))

theorem head?_ne (h : IsWord word) {s : Char} (hs : isNameLetter s.toLower = false)
    (rest : List Char) : (word ++ rest).head? ≠ some s := by
  obtain ⟨hletters, hne⟩ := h
  obtain ⟨c, cs, rfl⟩ := List.exists_cons_of_ne_nil hne
  intro heq
  exact ne_of_isNameLetter (hletters c List.mem_cons_self) hs (Option.some.inj heq)

theorem getLast?_ne (h : IsWord word) {s : Char} (hs : isNameLetter s.toLower = false) :
    word.getLast? ≠ some s :=
  fun heq ↦ ne_of_isNameLetter (h.letters s (List.mem_of_getLast? heq)) hs rfl

theorem takeYear_eq_none (h : IsWord word) (rest : List Char) : takeYear (word ++ rest) = none :=
  takeYear_of_ends (h.ends rest) (h.notBlank rest) (h.head?_ne (by decide) rest)
    (h.head?_ne (by decide) rest)

end IsWord

/-- None of the ranges of a table holds a letter of a name. -/
theorem markRanges_apart : ∀ r ∈ markRanges,
    (0x80 ≤ r.1 ∧ r.2 < 0x5D0) ∨ (0x5EA < r.1 ∧ r.2 < 0x627) ∨ 0x64A < r.1 := by
  decide +kernel

@[inherit_doc markRanges_apart]
theorem baseLetters_apart : ∀ e ∈ baseLetters,
    (0x80 ≤ e.1 ∧ e.1 < 0x5D0) ∨ (0x5EA < e.1 ∧ e.1 < 0x627) ∨ 0x64A < e.1 := by
  decide +kernel

@[inherit_doc markRanges_apart]
theorem caseRuns_apart : ∀ r ∈ caseRuns, r.last < 0x5D0 ∨ 0x64A < r.first := by
  decide +kernel

theorem isMark_of_isNameLetter (h : isNameLetter c.toLower = true) : isMark c = false := by
  have hrange := ranges_of_isNameLetter h
  rw [isMark, inRanges, List.any_eq_false]
  intro r hr
  have hapart := markRanges_apart r hr
  simp only [Bool.and_eq_true, decide_eq_true_eq]
  omega

theorem baseLetter_of_isNameLetter (h : isNameLetter c.toLower = true) : baseLetter c = c := by
  have hrange := ranges_of_isNameLetter h
  unfold baseLetter
  split
  · rfl
  · have hlookup : baseLetters.lookup c.toNat = none := by
      rw [List.lookup_eq_none_iff]
      intro e he
      have hapart := baseLetters_apart e he
      rw [bne_iff_ne]
      omega
    rw [hlookup]

theorem lowerChar_of_isNameLetter (h : isNameLetter c.toLower = true) :
    lowerChar c = [c.toLower] := by
  unfold lowerChar
  dsimp only
  rcases ranges_of_isNameLetter h with hascii | ⟨hlower, hrange⟩
  · rw [if_pos (by omega)]
  · have hruns : caseRuns.find? (·.holds c.toNat) = none := by
      rw [List.find?_eq_none]
      intro r hr
      have hapart := caseRuns_apart r hr
      simp only [CaseRun.holds, Bool.and_eq_true, decide_eq_true_eq, beq_iff_eq]
      omega
    rw [if_neg (by omega), if_neg (by omega), hruns, hlower]

theorem unmarked_of_isNameLetter (h : ∀ c ∈ word, isNameLetter c.toLower = true) :
    unmarked word = word.map Char.toLower := by
  have hmarks : (word.filter fun c ↦ !isMark c) = word := by
    rw [List.filter_eq_self]
    intro c hc
    rw [isMark_of_isNameLetter (h c hc)]
    rfl
  have hletter (c : Char) (hc : c ∈ word) :
      lowerChar (if baseLetter c = 'ı' then 'i' else baseLetter c) = [c.toLower] := by
    have hdotless : c ≠ 'ı' := by
      rintro rfl
      exact absurd (h _ hc) (by decide)
    rw [baseLetter_of_isNameLetter (h c hc), if_neg hdotless, lowerChar_of_isNameLetter (h c hc)]
  rw [unmarked, hmarks, List.map_eq_flatMap, List.flatMap_def, List.flatMap_def,
    List.map_congr_left hletter]

/-! ## The table of names -/

theorem monthWords_letters : ∀ e ∈ monthWords, e.1.toList.all isNameLetter = true := by
  decide +kernel

theorem monthWords_ne_nil : ∀ e ∈ monthWords, e.1.toList ≠ [] := by
  decide +kernel

theorem monthWords_lookup : ∀ e ∈ monthWords, monthWords.lookup e.1 = some e.2 := by
  decide +kernel

theorem monthWords_head : ∀ e ∈ monthWords, e.1.toList.head? ≠ some 'ב' := by
  decide +kernel

/-- A name of a month from the table of names, in any case of its ASCII letters. -/
def IsMonthName (month : Nat) (word : List Char) : Prop :=
  ∃ name, (name, month) ∈ monthWords ∧ word.map Char.toLower = name.toList

/-- A name of a month, before which the Hebrew letter for "in" may stand. -/
inductive IsMonthWord (month : Nat) : List Char → Prop where
  | name {word : List Char} : IsMonthName month word → IsMonthWord month word
  | prefixed {word : List Char} : IsMonthName month word → IsMonthWord month ('ב' :: word)

theorem isWord_of_map_toLower {letters : List Char} (hword : word.map Char.toLower = letters)
    (hletters : letters.all isNameLetter = true) (hne : letters ≠ []) : IsWord word := by
  subst hword
  refine ⟨fun c hc ↦ List.all_eq_true.mp hletters _ (List.mem_map_of_mem hc), ?_⟩
  rintro rfl
  exact hne rfl

theorem IsMonthName.isWord (h : IsMonthName month word) : IsWord word := by
  obtain ⟨name, hname, hword⟩ := h
  exact isWord_of_map_toLower hword (monthWords_letters _ hname) (monthWords_ne_nil _ hname)

theorem IsMonthWord.isWord (h : IsMonthWord month word) : IsWord word := by
  cases h with
  | name h => exact h.isWord
  | prefixed h =>
    exact ⟨List.forall_mem_cons.mpr ⟨by decide, h.isWord.letters⟩, List.cons_ne_nil _ _⟩

theorem monthOfWord_of_isMonthWord (h : IsMonthWord month word) :
    monthOfWord word = some month := by
  have hunmarked := unmarked_of_isNameLetter h.isWord.letters
  cases h with
  | name h =>
    obtain ⟨name, hname, hword⟩ := h
    rw [monthOfWord, hunmarked, hword, String.ofList_toList, monthWords_lookup _ hname]
  | @prefixed word h =>
    obtain ⟨name, hname, hword⟩ := h
    have hlookup : monthWords.lookup (String.ofList ('ב' :: name.toList)) = none := by
      rw [List.lookup_eq_none_iff]
      intro e he
      rw [bne_iff_ne]
      rintro heq
      refine monthWords_head e he ?_
      rw [← heq, String.toList_ofList]
      rfl
    have hrest : monthWords.lookup (String.ofList name.toList) = some month := by
      rw [String.ofList_toList, monthWords_lookup _ hname]
    have hbet : 'ב'.toLower = 'ב' := by decide
    rw [monthOfWord, hunmarked, List.map_cons, hword, hbet, hlookup]
    exact hrest

/-! ## English names in front of a text -/

/-- The English names of the months. -/
def englishMonths : List String :=
  ["January", "February", "March", "April", "May", "June", "July", "August", "September",
    "October", "November", "December"]

/-- The first three letters of the English name of a month, in any case. -/
def IsAbbreviation (month : Nat) (word : List Char) : Prop :=
  word.map Char.toLower = (Date.monthName month).toList.map Char.toLower

/-- The English name of a month, in full or cut to three letters, in any case. -/
inductive IsEnglishMonth (month : Nat) : List Char → Prop where
  | short {word : List Char} : IsAbbreviation month word → IsEnglishMonth month word
  | full {word : List Char} :
      word.map Char.toLower = (englishMonths.getD (month - 1) "").toList.map Char.toLower →
      IsEnglishMonth month word

section

variable (hfirst : 1 ≤ month) (hlast : month ≤ 12)
include hfirst hlast

theorem IsAbbreviation.length_eq (h : IsAbbreviation month word) : word.length = 3 := by
  have hlength : (Date.monthName month).toList.length = 3 := by
    interval_cases month <;> decide
  rw [← List.length_map (f := Char.toLower), h, List.length_map, hlength]

theorem IsAbbreviation.isWord (h : IsAbbreviation month word) : IsWord word := by
  refine isWord_of_map_toLower h ?_ ?_
  all_goals interval_cases month <;> decide

theorem takeShortMonth_append (h : IsAbbreviation month word) (rest : List Char) :
    takeShortMonth (word ++ rest) = some (month, rest) := by
  have hindex : (Date.monthNames.findIdx? fun name ↦
      name.toList.map Char.toLower = (Date.monthName month).toList.map Char.toLower) =
        some (month - 1) := by
    interval_cases month <;> decide
  have hlength := h.length_eq hfirst hlast
  have hnames := fun name hname ↦ (length_monthNames name hname).trans hlength.symm
  rw [takeShortMonth, takeName_append hnames, h, hindex, Option.map_some,
    Nat.add_sub_cancel' hfirst]

/-- No day of the week has the letters of a month. -/
theorem takeName_weekdayNames (h : IsAbbreviation month word) (rest : List Char) (n : Nat) :
    takeName (word ++ rest) n Date.weekdayNames = none := by
  have hindex : (Date.weekdayNames.findIdx? fun name ↦
      name.toList.map Char.toLower = (Date.monthName month).toList.map Char.toLower) = none := by
    interval_cases month <;> decide
  have hlength := h.length_eq hfirst hlast
  have hnames := fun name hname ↦ (length_weekdayNames name hname).trans hlength.symm
  rw [takeName_append hnames, h, hindex, Option.map_none]

/-- A name is an abbreviation and what may follow it. -/
theorem IsEnglishMonth.exists_eq_append (h : IsEnglishMonth month word) :
    ∃ start ending, word = start ++ ending ∧ IsAbbreviation month start ∧
      (ending = [] ∨
        ending.map Char.toLower =
          (monthEndings.getD (month - 1) "").toList.map Char.toLower) := by
  cases h with
  | short h => exact ⟨word, [], (List.append_nil word).symm, h, .inl rfl⟩
  | full h =>
    have hsplit : (englishMonths.getD (month - 1) "").toList.map Char.toLower =
        (Date.monthName month).toList.map Char.toLower ++
          (monthEndings.getD (month - 1) "").toList.map Char.toLower := by
      interval_cases month <;> decide
    rw [hsplit, List.map_eq_append_iff] at h
    obtain ⟨start, ending, rfl, hstart, hending⟩ := h
    exact ⟨start, ending, rfl, hstart, .inr hending⟩

theorem IsEnglishMonth.isWord (h : IsEnglishMonth month word) : IsWord word := by
  cases h with
  | short h => exact h.isWord hfirst hlast
  | full h =>
    refine isWord_of_map_toLower h ?_ ?_
    all_goals interval_cases month <;> decide

theorem takeMonth_of_isEnglishMonth (h : IsEnglishMonth month word)
    (hrest : ∀ c ∈ rest.head?, c.toLower.isAlpha = false) :
    takeMonth (word ++ rest) = some (month, rest) := by
  obtain ⟨start, ending, rfl, hstart, hending⟩ := h.exists_eq_append hfirst hlast
  have hletters : (monthEndings.getD (month - 1) "").toList.all (·.toLower.isAlpha) = true := by
    interval_cases month <;> decide
  rw [List.append_assoc]
  refine bind_of_some (takeShortMonth_append hfirst hlast hstart _) ?_
  dsimp only
  rcases hending with rfl | hending
  · -- Without an ending the letters of the ending are not found, unless there are none.
    cases hlist : (monthEndings.getD (month - 1) "").toList with
    | nil => rfl
    | cons e es =>
      have hword : takeWord (e :: es) rest = none := by
        cases rest with
        | nil => rfl
        | cons c rest =>
          refine if_neg fun heq ↦ ?_
          have he := List.all_eq_true.mp hletters e (hlist ▸ List.mem_cons_self)
          rw [heq, hrest c rfl] at he
          cases he
      rw [List.nil_append, hword]
  · have hlength : (monthEndings.getD (month - 1) "").toList.length = ending.length := by
      simpa using (congrArg List.length hending).symm
    rw [takeWord_append hlength, if_pos hending.symm]

end

end Mailroom.Calendar
