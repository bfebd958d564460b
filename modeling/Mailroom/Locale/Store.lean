import Mailroom.Journal
import Mailroom.Json.Reader
import Mailroom.Locale.Bundle

/-!
# The locale store

One document for every locale. The store is complete by its type: it is a function from locales to
documents, so a look-up in a given locale always finds a document, and what can fail is only the
building of the store.
-/

namespace Mailroom.Locale

/-- Why a store cannot be built. -/
inductive StoreError where
  | missingFile (path : String)
  | unreadable (path : String) (reason : String)
  | notJson (path : String) (reason : Json.ReadError)
  | wrongShape (path : String) (reason : Json.ShapeError)
  | incomplete (locale : Locale)

/-- The wording of a failure. -/
def StoreError.message : StoreError → String
  | .missingFile path => s!"Locale file not found: {path}"
  | .unreadable path reason => s!"Failed to read locale file {path}: {reason}"
  | .notJson path reason => s!"Invalid locale file {path}: {reason.message}"
  | .wrongShape path reason => s!"Invalid locale file {path}: {reason.message}"
  | .incomplete locale => s!"No bundle provided for locale: {locale.tag}"

/-- A document for every locale. -/
structure Store where
  bundle : Locale → Bundle

namespace Store

/-- The number of documents. -/
def size (_ : Store) : Nat := all.length

/-- The store of the given documents, if there is one for every locale. The first one that is
lacking is reported. -/
def ofBundles (bundles : List (Locale × Bundle)) : Except StoreError Store :=
  match bundles.lookup .tr, bundles.lookup .en, bundles.lookup .ar, bundles.lookup .he with
  | some turkish, some english, some arabic, some hebrew =>
    .ok ⟨fun | .tr => turkish | .en => english | .ar => arabic | .he => hebrew⟩
  | _, _, _, _ =>
    match all.find? fun l => (bundles.lookup l).isNone with
    | some l => .error (.incomplete l)
    | none => .error (.incomplete .tr)

/-- The document of a locale that is named by a text. -/
def bundleFor? (s : Store) (locale : String) : Option Bundle := (ofText? locale).map s.bundle

/-- All texts that are shown for a locale. For a name that stands for no locale these are the
English ones, and a warning is logged. -/
def textsFor (s : Store) (locale : String) : Journaled Json :=
  match ofText? locale with
  | some l => return (s.bundle l).document
  | none => do
    Journal.log {
      level := .warn
      target := "ara_email_service::locale::store"
      message := "Locale data not found, using fallback translations"
      fields := [("locale", .plain locale), ("resolved", .plain Locale.en.tag)] }
    return (s.bundle .en).document

end Store

end Mailroom.Locale
