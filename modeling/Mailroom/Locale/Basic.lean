import Mailroom.Text.Blank
import Mailroom.Text.Case

/-!
# Locales

The four languages in which messages are written, how a request names one, and in which order the
languages are tried when a text is missing in the one that was asked for.
-/

namespace Mailroom

/-- A language in which messages are written. -/
inductive Locale where
  | tr | en | ar | he
deriving DecidableEq, Repr

namespace Locale

/-- Every locale, in the order in which the locale documents are loaded. -/
def all : List Locale := [.tr, .en, .ar, .he]

/-- The tag of a locale. -/
def tag : Locale → String
  | .tr => "tr"
  | .en => "en"
  | .ar => "ar"
  | .he => "he"

/-- The locale that a text names, whatever its case and the blanks around it. -/
def ofText? (s : String) : Option Locale :=
  all.find? fun l => l.tag == Text.asciiLower (Text.trim s)

/-- The locales in which a text is looked for: the one asked for, then English, then Turkish. -/
def chain (requested : String) : List Locale :=
  match ofText? requested with
  | some .tr => [.tr, .en]
  | some .en => [.en, .tr]
  | some l => [l, .en, .tr]
  | none => [.en, .tr]

/-- The tag by which numbers are formatted for a locale. Only the bare tag of a locale counts; all
else is formatted as in English. -/
def numberTag (locale : String) : String :=
  if locale = "tr" then "tr-TR"
  else if locale = "ar" then "ar-SA"
  else if locale = "he" then "he-IL"
  else "en-US"

@[simp] theorem ofText?_tag (l : Locale) : ofText? l.tag = some l := by
  cases l <;> decide +kernel

theorem chain_ne_nil (requested : String) : chain requested ≠ [] := by
  unfold chain
  split <;> simp

end Locale

/-- The direction in which a language is written. -/
inductive Direction where
  | ltr | rtl
deriving DecidableEq, Repr

/-- The tag of a direction. -/
def Direction.tag : Direction → String
  | .ltr => "ltr"
  | .rtl => "rtl"

/-- The side at which lines begin. -/
inductive Align where
  | left | right
deriving DecidableEq, Repr

namespace Align

/-- The tag of a side. -/
def tag : Align → String
  | .left => "left"
  | .right => "right"

/-- The other side. -/
def opposite : Align → Align
  | .left => .right
  | .right => .left

@[simp] theorem opposite_opposite (a : Align) : a.opposite.opposite = a := by cases a <;> rfl

end Align

end Mailroom
