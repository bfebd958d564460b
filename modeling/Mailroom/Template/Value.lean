import Mailroom.Json.Text

/-!
# Values in templates

How a value is shown in a text, when it counts as true, and how text is made harmless in a page.
-/

namespace Mailroom.Template

mutual

/-- A value as it is shown: a string as it is, nothing for `null`, an array as the list of its
items, and a word in place of an object. -/
def shown : Json → String
  | .str s => s
  | .null => ""
  | .arr items => "[" ++ shownItems items ++ "]"
  | .obj _ => "[object]"
  | v => v.compact

/-- The items of an array, separated by commas. -/
def shownItems : List Json → String
  | [] => ""
  | [v] => shown v
  | v :: rest => shown v ++ ", " ++ shownItems rest

end

/-- Whether a number is a normal one: neither zero nor so small that its precision suffers. -/
def isNormal (x : Float) : Bool :=
  let exponent := x.toBits.toNat / Nat.pow 2 52 % Nat.pow 2 11
  exponent != 0 && exponent != 2047

/-- Whether a value counts as true. Zero does so only if it is asked for. -/
def truthy (includeZero : Bool) : Json → Bool
  | .bool b => b
  | .num (.int i) => includeZero || i != 0
  | .num (.float x) => if includeZero then !x.isNaN else isNormal x
  | .null => false
  | .str s => s != ""
  | .arr items => !items.isEmpty
  | .obj members => !members.isEmpty

/-- A character in a form that has no meaning in a page. -/
def escapedChar (c : Char) : List Char :=
  if c = '&' then "&amp;".toList
  else if c = '<' then "&lt;".toList
  else if c = '>' then "&gt;".toList
  else if c = '"' then "&quot;".toList
  else if c = '\'' then "&#x27;".toList
  else if c = '\x60' then "&#x60;".toList
  else if c = '=' then "&#x3D;".toList
  else [c]

/-- A text in which no character has a meaning in a page. -/
def escaped (s : String) : String := String.ofList (s.toList.flatMap escapedChar)

/-- Put blanks in front of every line but the first. An empty last line gets none. -/
def indented (indent : List Char) : List Char → List Char
  | [] => []
  | ['\n'] => ['\n']
  | '\n' :: cs => '\n' :: (indent ++ indented indent cs)
  | c :: cs => c :: indented indent cs

end Mailroom.Template
