import Mailroom.Proofs.Calendar.Readers
import Mailroom.Settings.Load

/-!
# The text of a variable

The text of a variable is read as a truth value, an integer or a fraction wherever it can be, and
written anew where a text is asked for. The texts that outlast this are those that are written as
they would be written anew (`Verbatim`, `text_variableNode`).
-/

namespace Mailroom.Settings

open Number

variable {cs : List Char} {c : Char} {text : String} {n : Nat} {b : Bool}

/-- The value of a variable, as it is laid. -/
def variableNode (text : String) : Node := .scalar (some "the environment") (scalarOf text)

/-- A text that is kept: if it reads as a truth value, as an integer of 64 bits or as another
number, it is written as these are. -/
structure Verbatim (text : String) : Prop where
  flag : ∀ b : Bool, Text.asciiLower text = toString b → text = toString b
  whole : ∀ i : Int, readInt64? text.toList = some i → text = toString i
  fraction : ∀ x : Float, readInt64? text.toList = none → readFloat? text.toList = some x →
    text = String.ofList (plainText x)

/-! ## Words are no numbers -/

/-- A character is none that a number written in digits may begin with. -/
structure BeginsNoNumber (c : Char) : Prop where
  digit : c.isDigit = false
  minus : c ≠ '-'
  plus : c ≠ '+'
  point : c ≠ '.'

theorem BeginsNoNumber.of_toLower (h : c.toLower.isAlpha = true) : BeginsNoNumber c where
  digit := by
    cases hdigit : c.isDigit with
    | true => rw [Calendar.toLower_isAlpha_of_isDigit hdigit] at h; cases h
    | false => rfl
  minus := by rintro rfl; cases h
  plus := by rintro rfl; cases h
  point := by rintro rfl; cases h

theorem splitSign_of_ne (hminus : c ≠ '-') (hplus : c ≠ '+') :
    splitSign (c :: cs) = (false, c :: cs) := by
  unfold splitSign
  split
  · next heq => exact absurd (List.cons.inj heq).1 hminus
  · next heq => exact absurd (List.cons.inj heq).1 hplus
  · rfl

theorem BeginsNoNumber.readInt64? (h : BeginsNoNumber c) : readInt64? (c :: cs) = none := by
  rw [Number.readInt64?, readInt?, splitSign_of_ne h.minus h.plus]
  simp [readNat?, h.digit]

theorem BeginsNoNumber.readFloat? (h : BeginsNoNumber c)
    (hword : String.ofList ((c :: cs).map Char.toLower) ∉ ["inf", "infinity", "nan"]) :
    readFloat? (c :: cs) = none := by
  simp only [List.mem_cons, List.not_mem_nil, or_false, not_or] at hword
  obtain ⟨hinf, hinfinity, hnan⟩ := hword
  have htake : (c :: cs).takeWhile Char.isDigit = [] := by simp [h.digit]
  have hdrop : (c :: cs).dropWhile Char.isDigit = c :: cs := by simp [h.digit]
  rw [Number.readFloat?, splitSign_of_ne h.minus h.plus]
  dsimp only
  rw [if_neg (not_or.mpr ⟨hinf, hinfinity⟩), if_neg hnan, htake, hdrop]
  split
  · next hpoint => exact absurd (List.cons.inj hpoint).1 h.point
  · rfl

/-- What reads as a truth value does not read as a number. -/
theorem not_number_of_word (h : Text.asciiLower text = toString b) :
    readInt64? text.toList = none ∧ readFloat? text.toList = none := by
  have hlower : String.ofList (text.toList.map Char.toLower) = toString b := h
  have hword : toString b ∉ ["inf", "infinity", "nan"] := by cases b <;> decide
  cases htext : text.toList with
  | nil =>
    rw [htext] at hlower
    cases b <;> exact absurd hlower (by decide)
  | cons c cs =>
    rw [htext] at hlower
    have hchars : (c :: cs).map Char.toLower = (toString b).toList := by
      rw [← hlower, String.toList_ofList]
    have hletter : c.toLower.isAlpha = true := by
      cases b <;> (rw [(List.cons.inj hchars).1]; rfl)
    have hc := BeginsNoNumber.of_toLower hletter
    exact ⟨hc.readInt64?, hc.readFloat? (hlower ▸ hword)⟩

/-- What begins like no number is kept, unless it is a word for a truth value or for a number. -/
theorem verbatim_of_beginsNoNumber (h : BeginsNoNumber c) (htext : text.toList = c :: cs)
    (hword : Text.asciiLower text ∉ ["true", "false", "inf", "infinity", "nan"]) :
    Verbatim text := by
  have hfloat : readFloat? text.toList = none := by
    rw [htext]
    refine h.readFloat? fun hmem ↦ hword ?_
    rw [Text.asciiLower, htext]
    exact List.mem_append_right ["true", "false"] hmem
  refine ⟨fun b hb ↦ ?_, fun i hi ↦ ?_, fun x _ hx ↦ ?_⟩
  · rw [hb] at hword
    cases b <;> exact absurd hword (by decide)
  · rw [htext, h.readInt64?] at hi
    cases hi
  · rw [hfloat] at hx
    cases hx

/-! ## What the text of a variable is read as -/

theorem scalarOf_flag (h : Text.asciiLower text = toString b) : scalarOf text = .flag b := by
  rw [scalarOf, h]
  cases b <;> rfl

theorem scalarOf_number (h : ∀ b : Bool, Text.asciiLower text ≠ toString b) : scalarOf text =
    match readInt64? text.toList, readFloat? text.toList with
    | some i, _ => .int i
    | none, some x => .fraction x
    | none, none => .text text := by
  unfold scalarOf
  split
  · next heq => exact absurd heq (h true)
  · next heq => exact absurd heq (h false)
  · rfl

/-- The text of a variable, where a text is asked for. -/
theorem text_variableNode (text : String) :
    ∃ spelled, (variableNode text).text = .ok spelled ∧ (spelled = text ↔ Verbatim text) := by
  by_cases hword : ∃ b : Bool, Text.asciiLower text = toString b
  · obtain ⟨b, hb⟩ := hword
    obtain ⟨hint, hfloat⟩ := not_number_of_word hb
    refine ⟨toString b, by rw [variableNode, scalarOf_flag hb]; rfl, ?_⟩
    constructor
    · intro heq
      refine ⟨fun b' hb' ↦ ?_, fun i hi ↦ ?_, fun x _ hx ↦ ?_⟩
      · rw [← hb', hb, heq]
      · rw [hint] at hi
        cases hi
      · rw [hfloat] at hx
        cases hx
    · exact fun h ↦ (h.flag b hb).symm
  · push Not at hword
    rw [variableNode, scalarOf_number hword]
    have hflag (b : Bool) (hb : Text.asciiLower text = toString b) : text = toString b :=
      absurd hb (hword b)
    cases hint : readInt64? text.toList with
    | some i =>
      refine ⟨toString i, rfl, fun heq ↦ ⟨hflag, fun j hj ↦ ?_, fun x hnone ↦ ?_⟩, fun h ↦ ?_⟩
      · rw [← heq, ← Option.some.inj (hint.symm.trans hj)]
      · rw [hint] at hnone
        cases hnone
      · exact (h.whole i hint).symm
    | none =>
      cases hfloat : readFloat? text.toList with
      | some x =>
        refine ⟨String.ofList (plainText x), rfl, fun heq ↦ ⟨hflag, fun i hi ↦ ?_, fun y _ hy ↦ ?_⟩,
          fun h ↦ (h.fraction x hint hfloat).symm⟩
        · rw [hint] at hi
          cases hi
        · rw [← heq, ← Option.some.inj (hfloat.symm.trans hy)]
      | none =>
        refine ⟨text, rfl, fun _ ↦ ⟨hflag, fun i hi ↦ ?_, fun x _ hx ↦ ?_⟩, fun _ ↦ rfl⟩
        · rw [hint] at hi
          cases hi
        · rw [hfloat] at hx
          cases hx

/-! ## Truth values and numbers -/

theorem scalarOf_toString_bool (b : Bool) : scalarOf (toString b) = .flag b := by cases b <;> rfl

theorem toList_toString (n : Nat) : (toString n).toList = natText n := by
  rw [Nat.toString_eq_ofList_toDigits, String.toList_ofList]
  rfl

section Digits

variable (hds : IsDigits cs) (hne : cs ≠ [])
include hds hne

/-- Digits are not a word, whatever letters are made small. -/
theorem lower_digits_ne (word : String) (hword : word.toList.head?.any Char.isAlpha = true) :
    String.ofList (cs.map Char.toLower) ≠ word := by
  rintro rfl
  obtain ⟨d, ds, rfl⟩ := List.exists_cons_of_ne_nil hne
  rw [String.toList_ofList] at hword
  rw [List.map_cons, List.head?_cons, Option.any_some,
    Calendar.toLower_isAlpha_of_isDigit (isDigits_cons.mp hds).1] at hword
  cases hword

theorem splitSign_digits : splitSign cs = (false, cs) := by
  obtain ⟨d, ds, rfl⟩ := List.exists_cons_of_ne_nil hne
  have hd := (isDigits_cons.mp hds).1
  exact splitSign_of_ne (by rintro rfl; cases hd) (by rintro rfl; cases hd)

theorem readInt64?_digits : readInt64? cs =
    if digitsValue 0 cs < 2 ^ 63 then some (digitsValue 0 cs : Int) else none := by
  have hint : readInt? cs = some (digitsValue 0 cs : Int) := by
    rw [readInt?, splitSign_digits hds hne]
    dsimp only
    rw [readNat?_of_isDigits hds hne]
    rfl
  have hfits : fitsInt64 (digitsValue 0 cs : Int) = true ↔ digitsValue 0 cs < 2 ^ 63 := by
    rw [fitsInt64_iff]
    omega
  rw [readInt64?, hint]
  by_cases hlt : digitsValue 0 cs < 2 ^ 63
  · rw [if_pos hlt]
    exact if_pos (hfits.mpr hlt)
  · rw [if_neg hlt]
    exact if_neg fun h ↦ hlt (hfits.mp h)

theorem readFloat?_digits : readFloat? cs = some (nearest false (digitsValue 0 cs) 0) := by
  have htake : cs.takeWhile Char.isDigit = cs := by simpa using takeWhile_digits hds ends_nil
  have hdrop : cs.dropWhile Char.isDigit = [] := by simpa using dropWhile_digits hds ends_nil
  rw [readFloat?, splitSign_digits hds hne]
  dsimp only
  have hinfinite := not_or.mpr ⟨lower_digits_ne hds hne "inf" (by decide),
    lower_digits_ne hds hne "infinity" (by decide)⟩
  rw [if_neg hinfinite, if_neg (lower_digits_ne hds hne "nan" (by decide)), htake, hdrop]
  dsimp only
  rw [List.isEmpty_eq_false_iff.mpr hne, List.append_nil]
  rfl

end Digits

theorem scalarOf_toString (n : Nat) :
    scalarOf (toString n) = if n < 2 ^ 63 then .int n else .fraction (nearest false n 0) := by
  have hds := isDigits_natText n
  have hne := natText_ne_nil n
  have hword (b : Bool) : Text.asciiLower (toString n) ≠ toString b := by
    rw [Text.asciiLower, toList_toString]
    exact lower_digits_ne hds hne (toString b) (by cases b <;> decide)
  rw [scalarOf_number hword, toList_toString, readInt64?_digits hds hne, readFloat?_digits hds hne,
    digitsValue_natText]
  by_cases hlt : n < 2 ^ 63
  · rw [if_pos hlt, if_pos hlt]
  · rw [if_neg hlt, if_neg hlt]

end Mailroom.Settings
