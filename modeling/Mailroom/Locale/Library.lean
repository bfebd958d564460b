import Mailroom.Files.Tree
import Mailroom.Locale.Store

/-!
# The locale library

A folder with one document for each locale, named after the tag of the locale. Reading it gives a
store, unless a document is lacking or out of order; the first such document is reported.
-/

namespace Mailroom.Locale.Store

open Mailroom.Files (Tree)

/-- The part of the service that reads the library. -/
def logTarget : String := "ara_email_service::locale::store"

/-- Read the document of one locale. -/
def readBundle (files : Tree) (dir : String) (l : Locale) : Attempt StoreError Bundle := do
  let path := Files.join dir (l.tag ++ ".json")
  let shown := files.shown path
  if !files.isFile path then throw (.missingFile shown)
  let text ← match files.readText path with
    | .ok text => pure text
    | .error fault => throw (.unreadable shown fault.message)
  let document ← match Json.read text with
    | .ok document => pure document
    | .error e => throw (.notJson shown e)
  let bundle ← match Bundle.ofJson document with
    | .ok bundle => pure bundle
    | .error e => throw (.wrongShape shown e)
  if bundle.layout.isNone then
    Journal.log {
      level := .warn
      target := logTarget
      message := "Locale file has no meta, defaults will be used"
      fields := [("locale", .plain l.tag)] }
  Journal.log {
    level := .info
    target := logTarget
    message := "Locale file loaded"
    fields := [("locale", .plain l.tag), ("path", .plain shown)] }
  return bundle

/-- Read the documents of all locales. -/
def load (files : Tree) (dir : String) : Attempt StoreError Store := do
  let turkish ← readBundle files dir .tr
  let english ← readBundle files dir .en
  let arabic ← readBundle files dir .ar
  let hebrew ← readBundle files dir .he
  Journal.log {
    level := .info
    target := logTarget
    message := "All locale files loaded successfully"
    fields := [("count", .int all.length)] }
  return ⟨fun | .tr => turkish | .en => english | .ar => arabic | .he => hebrew⟩

end Mailroom.Locale.Store
