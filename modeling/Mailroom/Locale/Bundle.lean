import Mailroom.Json.Shape
import Mailroom.Locale.Basic
import Mailroom.Text.Find

/-!
# Locale documents

All that is kept for one locale: a document of nested texts, and the two parts of it that have a
fixed shape, the layout of the language and the subject lines. A text is found under a dotted key,
which names the members to follow from the root; only a string at the end of the path counts.
-/

namespace Mailroom.Locale

open Mailroom.Json (Shaped)

/-- How a language is laid out. -/
structure Layout where
  direction : Direction
  align : Align
  fontFamily : String
deriving DecidableEq, Repr

/-- The texts of one locale. -/
structure Bundle where
  layout : Option Layout
  subjects : List (String × String)
  document : Json

/-- The layout that a document states under `meta`. -/
def Layout.ofJson (v : Json) : Shaped Layout := do
  let direction := Json.Shape.variant [("ltr", Direction.ltr), ("rtl", .rtl)]
  let align := Json.Shape.variant [("left", Align.left), ("right", .right)]
  let fields ← Json.Shape.record "BundleMeta"
    [.must "direction" direction, .must "align" align, .must "fontFamily" Json.Shape.text] v
  return {
    direction := ← Json.Shape.get fields "direction" direction
    align := ← Json.Shape.get fields "align" align
    fontFamily := ← Json.Shape.get fields "fontFamily" Json.Shape.text }

namespace Bundle

/-- A document, if its parts of fixed shape are in order. -/
def ofJson (document : Json) : Shaped Bundle := do
  let layout := Json.Shape.optional Layout.ofJson
  let subjects := Json.Shape.table Json.Shape.text
  let fields ← Json.Shape.record "Header" [.may "meta" layout, .may "subjects" subjects] document
  return {
    layout := ← Json.Shape.getD fields "meta" layout none
    subjects := ← Json.Shape.getD fields "subjects" subjects []
    document }

/-- The parts of a dotted key. -/
def keyParts (key : String) : List String := (Text.splitAt '.' key.toList).map String.ofList

/-- The value at the end of a path of member names. -/
def follow : List String → Json → Option Json
  | [], v => some v
  | part :: parts, v => (v.get? part).bind (follow parts)

/-- The text under a dotted key. -/
def lookup (b : Bundle) (key : String) : Option String :=
  (follow (keyParts key) b.document).bind Json.text?

/-- The subject line of a kind of message, unless it is empty. -/
def subject (b : Bundle) (key : String) : Option String :=
  (b.subjects.lookup key).filter (· != "")

end Bundle

end Mailroom.Locale
