import Mailroom.Locale.Store

/-!
# Presentation of a locale

What a template is told about the locale it is rendered for. Every name has a presentation: one
that stands for no locale, or whose document states no layout, has a left-to-right one.
-/

namespace Mailroom.Locale

/-- What a template is told about its locale. -/
structure Presentation where
  locale : String
  direction : Direction
  align : Align
  fontFamily : String
  numberTag : String
  logoUrl : Option String

/-- The fonts of a document that states no layout. -/
def defaultFontFamily : String := "Segoe UI, Tahoma, Geneva, Verdana, sans-serif"

/-- The tag by which numbers are formatted when no layout is stated. -/
def defaultNumberTag : String := "tr-TR"

/-- The presentation of a locale. -/
def Store.presentation (s : Store) (logoUrl : Option String) (locale : String) : Presentation :=
  match (s.bundleFor? locale).bind Bundle.layout with
  | some layout =>
    { locale, direction := layout.direction, align := layout.align
      fontFamily := layout.fontFamily, numberTag := numberTag locale, logoUrl }
  | none =>
    { locale, direction := .ltr, align := .left, fontFamily := defaultFontFamily
      numberTag := defaultNumberTag, logoUrl }

/-- The presentation as it is seen by a template. -/
def Presentation.toJson (p : Presentation) : Json :=
  Json.ofMembers ([
    ("locale", .str p.locale),
    ("direction", .str p.direction.tag),
    ("align", .str p.align.tag),
    ("oppositeAlign", .str p.align.opposite.tag),
    ("fontFamily", .str p.fontFamily),
    ("intlLocale", .str p.numberTag)]
    ++ match p.logoUrl with
      | some url => [("logoUrl", .str url)]
      | none => [])

end Mailroom.Locale
