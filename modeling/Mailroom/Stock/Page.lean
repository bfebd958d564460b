/-!
# Template pages

The way in which template sources are written down in this project: as lines in which `⟪` and `⟫`
stand for the double braces of the template language.
-/

namespace Mailroom.Stock

/-- The source text of a template that is given by its lines. -/
def page (lines : List String) : String :=
  String.join (lines.map fun line =>
    String.ofList (line.toList.flatMap fun c =>
      if c = '⟪' then ['\x7b', '\x7b'] else if c = '⟫' then ['\x7d', '\x7d'] else [c]) ++ "\n")

end Mailroom.Stock
