import Mailroom.Json.Text
import Mailroom.Locale.Store

/-!
# Wordings

Finding the text under a dotted key, in the locale that was asked for or in one of those that stand
in for it, and putting parameters into its placeholders.
-/

namespace Mailroom.Locale

/-- The outcome of a search along the chain of locales. -/
inductive Wording where
  | found (value : String)
  | fallback (value : String) (origin : Locale)
  | missing
deriving DecidableEq, Repr

/-- The text that was found, or nothing. -/
def Wording.value : Wording → String
  | .found v => v
  | .fallback v _ => v
  | .missing => ""

/-- Put the text of a value in the place of every placeholder of one name. -/
def fill (name : String) (value : Json) (text : String) : String :=
  String.ofList
    (Text.replaceAll '\x7b' ('\x7b' :: (name.toList ++ ['\x7d', '\x7d'])) value.display.toList
      text.toList)

/-- Put parameters into the placeholders of a text, one parameter after the other in the order of
their names. Placeholders without a parameter stay as they are. -/
def interpolate (text : String) (params : Json.Members) : String :=
  params.foldl (fun text (name, value) => fill name value text) text

namespace Store

/-- The first text under a key along a list of locales. -/
def search (s : Store) (requested : Option Locale) (key : String) : List Locale → Wording
  | [] => .missing
  | l :: ls =>
    match (s.bundle l).lookup key with
    | some value => if some l = requested then .found value else .fallback value l
    | none => search s requested key ls

/-- The text under a key for a locale, and where it was found. -/
def lookup (s : Store) (locale key : String) : Wording :=
  s.search (ofText? locale) key (chain locale)

/-- The text under a key for a locale, with parameters put in. A key that is found nowhere gives
the empty text; that, and the use of another locale, is logged and counted. -/
def textFor (s : Store) (locale key : String) (params : Json.Members) : Journaled String := do
  match s.lookup locale key with
  | .found value => return interpolate value params
  | .fallback value origin =>
    Journal.log {
      level := .warn
      target := "ara_email_service::locale::translator"
      message := "Translation fallback"
      fields := [("key", .plain key), ("requested", .plain locale),
        ("resolved", .plain origin.tag)] }
    Journal.count (.fellBack locale origin.tag)
    return interpolate value params
  | .missing =>
    Journal.log {
      level := .warn
      target := "ara_email_service::locale::translator"
      message := "Translation not found in any locale"
      fields := [("key", .plain key), ("locale", .plain locale)] }
    Journal.count .textMissing
    return ""

end Store

end Mailroom.Locale
