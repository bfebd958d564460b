import Mailroom.Template.Basic
import Mailroom.Text.Find

/-!
# The inside of a tag

Reading what stands between the braces of a tag: names, paths, literals and calls. Each reader
takes what it can from the front of a text and gives the rest, or refuses. Between two parts of a
tag there may be blanks; inside of a path there are none. A choice is final: what a reader has
taken is not given back when something behind it is refused.
-/

namespace Mailroom.Template.Grammar

/-- Takes something from the front of a text. -/
abbrev Reader (α : Type) := List Char → Option (α × List Char)

/-- A character that may stand between the parts of a tag. -/
def isBlank (c : Char) : Bool := c = ' ' || c = '\t' || c = '\n' || c = '\r'

/-- Pass over blanks. -/
def skipBlanks (cs : List Char) : List Char := cs.dropWhile isBlank

/-- A character of a name. -/
def isSymbol (c : Char) : Bool :=
  c.isAlphanum || c = '_' || c = '-' || c = '$' || 0x80 ≤ c.toNat

/-- A character of the name of a part. -/
def isPartSymbol (c : Char) : Bool :=
  c.isAlphanum || c = '_' || c = '-' || c = '/' || c = '.' || 0x80 ≤ c.toNat

/-- Whether a character of a name comes next. -/
def symbolNext (cs : List Char) : Bool :=
  match cs with
  | c :: _ => isSymbol c
  | [] => false

/-- What follows a given text. -/
def expect (text : String) (cs : List Char) : Option (List Char) := Text.after? text.toList cs

/-- What was taken from `before` when `rest` was left. -/
def taken (before rest : List Char) : String :=
  String.ofList (before.take (before.length - rest.length))

/-- A name. -/
def name : Reader String := fun cs =>
  if symbolNext cs then some (String.ofList (cs.takeWhile isSymbol), cs.dropWhile isSymbol)
  else none

/-! ## Paths -/

/-- A separator of the steps of a path. -/
def separator : List Char → Option (List Char)
  | '/' :: cs => some cs
  | '.' :: cs => some cs
  | _ => none

/-- The word or sign for the present value, with a separator behind it. -/
def pastPresent (cs : List Char) : List Char :=
  (((expect "this" cs).bind separator) <|> expect "./" cs).getD cs

/-- The word for the root, with a separator behind it. -/
def pastRoot (cs : List Char) : List Step × List Char :=
  match (expect "@root" cs).bind separator with
  | some rest => ([.root], rest)
  | none => ([], cs)

/-- The sign in front of a variable. -/
def pastVariableSign : List Char → List Step × List Char
  | '@' :: cs => ([.locals], cs)
  | cs => ([], cs)

/-- The signs for steps outward, each with a separator behind it. -/
def pastOutward : List Char → List Step × List Char
  | '.' :: '.' :: c :: cs =>
    if c = '/' ∨ c = '.' then
      let (steps, rest) := pastOutward cs
      (.outward :: steps, rest)
    else ([], '.' :: '.' :: c :: cs)
  | cs => ([], cs)

/-- A step into a member: a name, or anything between square brackets. The word `this` is no step
of its own. -/
def member : Reader (List Step) := fun cs =>
  let step (name : String) : List Step := if name = "this" then [] else [.into name]
  match cs with
  | '[' :: inner =>
    match inner.dropWhile (· != ']') with
    | _ :: rest => some (step (String.ofList (inner.takeWhile (· != ']'))), rest)
    | [] => none
  | _ => (name cs).map fun (n, rest) => (step n, rest)

/-- Further members, each behind a separator. -/
def furtherMembers : Nat → List Char → List Step × List Char
  | 0, cs => ([], cs)
  | n + 1, cs =>
    match (separator cs).bind member with
    | some (step, rest) =>
      let (steps, rest) := furtherMembers n rest
      (step ++ steps, rest)
    | none => ([], cs)

/-- A path. -/
def path : Reader Path := fun cs => do
  let rest := pastPresent cs
  let (root, rest) := pastRoot rest
  let (sign, rest) := pastVariableSign rest
  let (outward, rest) := pastOutward rest
  let (first, rest) ← member rest
  let (further, rest) := furtherMembers rest.length rest
  return (⟨taken cs rest, root ++ sign ++ outward ++ first ++ further⟩, rest)

/-! ## Literals -/

/-- Whether a character is a hexadecimal digit. -/
def isHexDigit (c : Char) : Bool :=
  c.isDigit || ('a' ≤ c && c ≤ 'f') || ('A' ≤ c && c ≤ 'F')

/-- Pass over the inside of a string, up to the closing quote. -/
def pastStringInside (quote : Char) : List Char → List Char
  | [] => []
  | '\\' :: 'u' :: a :: b :: c :: d :: cs =>
    if isHexDigit a && isHexDigit b && isHexDigit c && isHexDigit d then
      pastStringInside quote cs
    else '\\' :: 'u' :: a :: b :: c :: d :: cs
  | '\\' :: c :: cs =>
    if c = quote || ['\\', '/', 'b', 'f', 'n', 'r', 't'].contains c then
      pastStringInside quote cs
    else '\\' :: c :: cs
  | '\\' :: [] => ['\\']
  | c :: cs => if c = quote then c :: cs else pastStringInside quote cs

/-- Pass over a string in quotes. -/
def pastString (quote : Char) (cs : List Char) : Option (List Char) :=
  match cs with
  | c :: inside =>
    if c = quote then
      match pastStringInside quote inside with
      | d :: rest => if d = quote then some rest else none
      | [] => none
    else none
  | [] => none

/-- Pass over a number. -/
def pastNumber (cs : List Char) : Option (List Char) := do
  let rest := match cs with | '-' :: r => r | r => r
  if !(rest.head?.any Char.isDigit) then none
  let rest := rest.dropWhile Char.isDigit
  let rest := match rest with | '.' :: r => r | r => r
  let rest := rest.dropWhile Char.isDigit
  let rest := match rest with
    | 'E' :: r =>
      let digits := match r with | '-' :: d => d | d => d
      if digits.head?.any Char.isDigit then digits.dropWhile Char.isDigit else rest
    | _ => rest
  if symbolNext rest then none else some rest

/-- Pass over a word that no character of a name follows. -/
def pastWord (word : String) (cs : List Char) : Option (List Char) :=
  (expect word cs).filter fun rest => !symbolNext rest

mutual

/-- Pass over a literal. -/
def pastLiteral : Nat → List Char → Option (List Char)
  | 0, _ => none
  | n + 1, cs =>
    pastString '"' cs <|> pastString '\'' cs <|> pastArray n cs <|> pastObject n cs
      <|> pastNumber cs <|> pastWord "null" cs <|> pastWord "true" cs <|> pastWord "false" cs

/-- Pass over an array. -/
def pastArray : Nat → List Char → Option (List Char)
  | 0, _ => none
  | n + 1, cs => do
    let inside := skipBlanks (← expect "[" cs)
    let rest := (pastLiteral n inside).getD inside
    expect "]" (skipBlanks (pastFurtherItems n rest))

/-- Pass over items, each behind a comma. -/
def pastFurtherItems : Nat → List Char → List Char
  | 0, cs => cs
  | n + 1, cs =>
    match (expect "," (skipBlanks cs)).bind fun rest => pastLiteral n (skipBlanks rest) with
    | some rest => pastFurtherItems n rest
    | none => cs

/-- Pass over an object. -/
def pastObject : Nat → List Char → Option (List Char)
  | 0, _ => none
  | n + 1, cs => do
    let inside := skipBlanks (← expect "\x7b" cs)
    let rest := (pastMember n inside).getD inside
    expect "\x7d" (skipBlanks (pastFurtherMembers n rest))

/-- Pass over a member of an object. -/
def pastMember : Nat → List Char → Option (List Char)
  | 0, _ => none
  | n + 1, cs => do
    let rest ← pastString '"' cs <|> pastString '\'' cs
    let rest ← expect ":" (skipBlanks rest)
    pastLiteral n (skipBlanks rest)

/-- Pass over members, each behind a comma. -/
def pastFurtherMembers : Nat → List Char → List Char
  | 0, cs => cs
  | n + 1, cs =>
    match (expect "," (skipBlanks cs)).bind fun rest => pastMember n (skipBlanks rest) with
    | some rest => pastFurtherMembers n rest
    | none => cs

end

/-- A literal, as its text. -/
def literal : Reader String := fun cs =>
  (pastLiteral (2 * cs.length + 1) cs).map fun rest => (taken cs rest, rest)

/-! ## Arguments -/

/-- Whether a word with a meaning of its own comes next, which is no argument. -/
def keywordNext (cs : List Char) : Bool :=
  ((expect "as" cs) <|> (expect "else" cs)).any fun rest => !symbolNext (skipBlanks rest)

mutual

/-- An argument without a name. -/
def argument : Nat → Reader (Argument String)
  | 0, _ => none
  | n + 1, cs =>
    if keywordNext cs then none
    else ((literal cs).map fun (text, rest) => (.literal text, rest))
      <|> ((path cs).map fun (p, rest) => (.path p, rest))
      <|> call n cs

/-- An argument, with its name if it is given by name. -/
def givenArgument : Nat → Reader (Option String × Argument String)
  | 0, _ => none
  | n + 1, cs =>
    let named := do
      let (key, rest) ← name cs
      let rest ← expect "=" (skipBlanks rest)
      let (value, rest) ← argument n (skipBlanks rest)
      return ((some key, value), rest)
    named <|> ((argument n cs).map fun (value, rest) => ((none, value), rest))

/-- As many arguments as there are, with the rest from behind the last one. -/
def arguments : Nat → List Char → List (Option String × Argument String) × List Char
  | 0, cs => ([], cs)
  | n + 1, cs =>
    match givenArgument n (skipBlanks cs) with
    | some (g, rest) =>
      let (gs, rest) := arguments n rest
      (g :: gs, rest)
    | none => ([], cs)

/-- A name with at least one argument. -/
def callWithArguments : Nat → Reader (Argument String × List (Option String × Argument String))
  | 0, _ => none
  | n + 1, cs => do
    let (callee, rest) ← name cs
    let (given, rest) := arguments n rest
    if given.isEmpty then none else some ((.word callee, given), rest)

/-- A call between parentheses. -/
def call : Nat → Reader (Argument String)
  | 0, _ => none
  | n + 1, cs => do
    let inside := skipBlanks (← expect "(" cs)
    let ((callee, given), rest) ←
      callWithArguments n inside <|> (path inside).map fun (p, rest) => ((.path p, []), rest)
    let rest ← expect ")" (skipBlanks rest)
    return (.call callee given, rest)

end

/-- More than any reader nests on a text. -/
def depth (cs : List Char) : Nat := 5 * cs.length + 5

/-- What is called or shown when it is no plain name: a call between parentheses, or a path. -/
def callee : Reader (Argument String) := fun cs =>
  call (depth cs) cs <|> (path cs).map fun (p, rest) => (.path p, rest)

/-! ## Lines -/

/-- The line of a tag that shows a value. -/
def valueLine : Reader (Line String) := fun cs =>
  ((callWithArguments (depth cs) cs).map fun ((callee, given), rest) =>
      ({ callee := callee, given := given }, rest))
    <|> (callee cs).map fun (callee, rest) => ({ callee := callee }, rest)

/-- The names by which a body refers to its value. -/
def blockNames (cs : List Char) : Option (List String × List Char) := do
  let rest ← expect "as" (skipBlanks cs)
  let rest ← expect "|" (skipBlanks rest)
  let (first, rest) ← name (skipBlanks rest)
  match name (skipBlanks rest) with
  | some (second, rest) => return ([first, second], ← expect "|" (skipBlanks rest))
  | none => return ([first], ← expect "|" (skipBlanks rest))

/-- The line of a tag that opens a block. -/
def blockLine : Reader (Line String) := fun cs => do
  let (callee, rest) ← name cs
  let (given, rest) := arguments (depth rest) rest
  match blockNames rest with
  | some (names, rest) => return ({ callee := .word callee, given, names }, rest)
  | none => return ({ callee := .word callee, given }, rest)

/-- Pass over the inside of a name between single quotes, up to the closing one. -/
def pastQuotedName : List Char → List Char
  | [] => []
  | '\\' :: '\'' :: cs => pastQuotedName cs
  | '\'' :: cs => '\'' :: cs
  | _ :: cs => pastQuotedName cs

/-- The name of a part, bare or between single quotes, which belong to it. -/
def partName (cs : List Char) : Option (String × List Char) :=
  match cs.takeWhile isPartSymbol, cs with
  | c :: bare, _ => some (String.ofList (c :: bare), cs.dropWhile isPartSymbol)
  | [], '\'' :: inside =>
    match pastQuotedName inside with
    | '\'' :: rest =>
      if inside.head? = some '\'' then none else some (taken cs rest, rest)
    | _ => none
  | [], _ => none

/-- The line of a tag that puts in a part. -/
def partLine : Reader (Line String) := fun cs => do
  let (callee, rest) ←
    ((partName cs).map fun (n, rest) => (.word n, rest)) <|> callee cs
  let (given, rest) := arguments (depth rest) rest
  return ({ callee, given }, rest)

end Mailroom.Template.Grammar
