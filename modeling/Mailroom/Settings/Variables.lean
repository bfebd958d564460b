import Mailroom.Text.Blank

/-!
# Files of variables

A file of variables has lines of the form `NAME=value`. A value may be quoted, by quotes or by
apostrophes, and then go over several lines; a dollar sign outside apostrophes begins the name of a
variable whose value stands in its place. A file is read up to the first line that is out of order.
A variable that is set already keeps its value.
-/

namespace Mailroom.Settings

/-- Variables with their values. -/
abbrev Variables := List (String × String)

namespace Variables

/-! ## Lines -/

/-- Where in a line one is: outside quotes, behind a blank, within quotes, or within apostrophes; in
the last two and outside, behind a backslash too. -/
inductive Context where
  | plain | escaped | blank | quoted | quotedEscaped | literal | literalEscaped
deriving DecidableEq, Repr

/-- The place behind a character. -/
def Context.past (x : Context) (c : Char) : Context :=
  match x with
  | .escaped => .plain
  | .quotedEscaped => .quoted
  | .literalEscaped => .literal
  | .quoted => if c = '\\' then .quotedEscaped else if c = '"' then .plain else .quoted
  | .literal => if c = '\\' then .literalEscaped else if c = '\'' then .plain else .literal
  | .plain | .blank =>
    if c = '\\' then .escaped
    else if c = '"' then .quoted
    else if c = '\'' then .literal
    else if x = .plain ∧ Text.isBlank c ∧ c ≠ '\n' ∧ c ≠ '\r' then .blank
    else .plain

/-- The part of a line in front of its comment, and the place where it ends if there is no
comment. -/
def uncommented : Context → List Char → List Char × Option Context
  | x, [] => ([], some x)
  | x, c :: cs =>
    if x = .blank ∧ c = '#' then ([], none)
    else
      let (rest, finish) := uncommented (x.past c) cs
      (c :: rest, finish)

/-- The lines of a text with the ends they have. -/
def physicalLines : List Char → List (List Char)
  | [] => []
  | c :: cs =>
    if c = '\n' then ['\n'] :: physicalLines cs
    else match physicalLines cs with
      | [] => [[c]]
      | line :: lines => (c :: line) :: lines

/-- A line without its end. -/
def withoutEnd (line : List Char) : List Char :=
  match line.reverse with
  | '\n' :: '\r' :: rest => rest.reverse
  | '\n' :: rest => rest.reverse
  | _ => line

/-- The lines of a file, where a quoted value may go over several ones; `none` stands for one that
does not end. What is read of a line so far stands in `before`. -/
def logicalLines (before : List Char) (x : Context) :
    List (List Char) → List (Option (List Char))
  | [] => if x = .plain then [] else [none]
  | line :: lines =>
    if (before ++ line).dropWhile Text.isBlank |>.head?.any (· = '#') then
      logicalLines [] .plain lines
    else
      match uncommented x line with
      | (shown, none) => some (before ++ shown) :: logicalLines [] .plain lines
      | (shown, some .plain) =>
        some (withoutEnd (before ++ shown)) :: logicalLines [] .plain lines
      | (shown, some x) => logicalLines (before ++ shown) x lines

/-! ## Values -/

/-- What has been read of a value: the text so far, where one is, and, behind a dollar sign, the
name so far and whether it stands in braces. -/
structure Reading where
  text : List Char := []
  context : Context := .plain
  name : Option (List Char × Bool) := none
  isOver : Bool := false

/-- The characters that may stand behind a backslash. -/
def escapable : List Char := ['\\', '\'', '"', '$', ' ']

/-- The value that stands in the place of a name. -/
def substitute (look : String → Option String) (name : List Char) : List Char :=
  ((look (String.ofList name)).getD "").toList

namespace Reading

/-- The text with the value of the name at its end. -/
def settled (look : String → Option String) (r : Reading) : List Char :=
  match r.name with
  | some (name, _) => r.text ++ substitute look name
  | none => r.text

/-- A reading behind a character that is part of no name and no escape. -/
def ordinary (r : Reading) (c : Char) : Reading :=
  if r.context = .quoted then
    if c = '"' then { r with context := .plain }
    else if c = '\\' then { r with context := .quotedEscaped }
    else { r with text := r.text ++ [c] }
  else if c = '\'' then { r with context := .literal }
  else if c = '"' then { r with context := .quoted }
  else if c = '\\' then { r with context := .escaped }
  else if c = ' ' ∨ c = '\t' then { r with isOver := true }
  else { r with text := r.text ++ [c] }

/-- A reading behind a character of a name. -/
def named (look : String → Option String) (r : Reading) (name : List Char) (inBraces : Bool)
    (c : Char) : Reading :=
  if c.isAlphanum then { r with name := some (name ++ [c], inBraces) }
  else if inBraces then
    if c = '\x7d' then { r with text := r.settled look, name := none }
    else { r with name := some (name ++ [c], true) }
  else if c = '\x7b' ∧ name = [] then { r with name := some ([], true) }
  else if c = '$' then { r with text := r.settled look, name := some ([], false) }
  else { r with text := r.settled look ++ [c], name := none }

/-- A reading behind an escaped character. -/
def escaped (r : Reading) (context : Context) (c : Char) : Option Reading :=
  if escapable.contains c then some { r with text := r.text ++ [c], context }
  else if c = 'n' then some { r with text := r.text ++ ['\n'], context }
  else none

/-- Read the characters of a value. -/
def run (look : String → Option String) : Reading → List Char → Option Reading
  | r, [] => some r
  | r, c :: cs =>
    if r.isOver then
      if c = ' ' ∨ c = '\t' then run look r cs
      else if c = '#' then some r
      else none
    else
      match r.context, r.name with
      | .escaped, _ => (r.escaped .plain c).bind fun r => run look r cs
      | .quotedEscaped, _ => (r.escaped .quoted c).bind fun r => run look r cs
      | .literal, _ =>
        run look (if c = '\'' then { r with context := .plain }
          else { r with text := r.text ++ [c] }) cs
      | _, some (name, inBraces) => run look (r.named look name inBraces c) cs
      | _, none =>
        run look (if c = '$' then { r with name := some ([], false) } else r.ordinary c) cs

end Reading

/-- The value that some characters stand for. Quotes and braces have to be closed. -/
def valueOf? (look : String → Option String) (cs : List Char) : Option String := do
  let r ← Reading.run look {} cs
  let isOpen := r.context = .quoted || r.context = .quotedEscaped || r.context = .literal
    || r.name.any (·.2)
  if isOpen then none else some (String.ofList (r.settled look))

/-! ## Files -/

/-- A character of a name. -/
def isNameChar (c : Char) : Bool := c.isAlphanum || c = '_' || c = '.'

/-- The name at the front of some characters, and what is behind it and the blanks that follow. -/
def readName (cs : List Char) : Option (String × List Char) :=
  match cs with
  | c :: _ =>
    if c.isAlpha ∨ c = '_' then
      some (String.ofList (cs.takeWhile isNameChar), Text.trimLeft (cs.dropWhile isNameChar))
    else none
  | [] => none

/-- What is behind an equals sign. -/
def pastEquals : List Char → Option (List Char)
  | '=' :: cs => some cs
  | _ => none

/-- The name that a line sets and the characters of the value. The word `export` may stand in front
of the name. -/
def readSetting (cs : List Char) : Option (String × List Char) := do
  let (name, rest) ← readName cs
  match pastEquals rest with
  | some rest => some (name, Text.trimLeft rest)
  | none =>
    if name = "export" then
      let (name, rest) ← readName rest
      some (name, Text.trimLeft (← pastEquals rest))
    else none

/-- What a line sets: nothing if it is blank or a comment. -/
def ofLine (look : String → Option String) (line : List Char) : Option (Option (String × String)) :=
  let cs := Text.trimLeft (Text.trimRight line)
  if cs.isEmpty ∨ cs.head? = some '#' then some none
  else do
    let (name, rest) ← readSetting cs
    if rest.isEmpty ∨ rest.head? = some '#' then some (some (name, ""))
    else some (some (name, ← valueOf? look rest))

/-- Set the variables of some lines. Those that the lines before have set, whether they were set
already or not, stand in `written`, the last one first. -/
def setLines (written : Variables) (environment : Variables) : List (Option (List Char)) → Variables
  | [] => environment
  | none :: _ => environment
  | some line :: lines =>
    let look (name : String) : Option String := environment.lookup name <|> written.lookup name
    match ofLine look line with
    | none => environment
    | some none => setLines written environment lines
    | some (some (name, value)) =>
      let written := (name, value) :: written
      if (environment.lookup name).isSome then setLines written environment lines
      else setLines written (environment ++ [(name, value)]) lines

/-- Set the variables of a file. A mark of the byte order at its front is passed over. -/
def setFile (text : String) (environment : Variables) : Variables :=
  let cs := match text.toList with
    | '\uFEFF' :: cs => cs
    | cs => cs
  setLines [] environment (logicalLines [] .plain (physicalLines cs))

end Variables

end Mailroom.Settings
