import Mailroom.Template.Grammar

/-!
# Tags and the text between them

Taking a template source apart into texts and tags. A backslash in front of the braces of a tag
makes them plain text, and an even number of signs is halved by one: of several backslashes the
first is removed and the tag stays a tag. With each tag is noted how it stands in its line, since a
tag that stands alone there takes the line with it.
-/

namespace Mailroom.Template

open Grammar (Reader skipBlanks expect taken)

/-- A tag as it is written. -/
inductive Tag where
  /-- Shows a value. -/
  | value (line : Line String) (escaped : Bool)
  /-- Opens a block. -/
  | block (line : Line String)
  /-- Opens the branch of a block for the case that another condition holds. -/
  | branch (line : Line String)
  /-- Opens the branch of a block for all other cases. -/
  | otherwise
  /-- Closes what was opened last. A name that is no plain one can only close a part. -/
  | close (name : String) (plain : Bool)
  /-- Changes the state of the rendering. -/
  | decorator (line : Line String)
  /-- Opens a decorator with a body. -/
  | openDecorator (line : Line String)
  /-- Puts in a part. -/
  | part (line : Line String)
  /-- Puts in a part that is given a body. -/
  | openPart (line : Line String)
  /-- Is passed over. -/
  | comment

/-- A tag in its place. -/
structure Token where
  tag : Tag
  position : Position := {}
  /-- Whether the blanks in front of the tag are removed. -/
  trimsBefore : Bool := false
  /-- Whether the blanks behind the tag are removed. -/
  trimsAfter : Bool := false
  /-- Whether nothing but blanks stands in front of the tag and behind it in its line. -/
  alone : Bool := false
  /-- The blanks in front of the tag. -/
  indent : Option String := none

/-- A stretch of a source. -/
inductive Piece where
  | text (value : String)
  /-- Text that is shown as it is, between the two tags of a verbatim block. -/
  | verbatim (value : String)
  | tag (token : Token)

/-! ## Reading tags -/

/-- The sign by which a tag removes blanks. -/
def trimSign : List Char → Bool × List Char
  | '~' :: cs => (true, cs)
  | cs => (false, cs)

/-- Read signs with blanks in front of each. -/
def expectAll : List String → List Char → Option (List Char)
  | [], cs => some cs
  | sign :: signs, cs => (expect sign (skipBlanks cs)).bind (expectAll signs)

/-- A tag between two kinds of braces, with signs in front of its inside and behind it. -/
def tagBetween (left : String) (signs : List String) (inside : Reader Tag)
    (signsBehind : List String) (right : String) : Reader Token := fun cs => do
  let rest ← expect left cs
  let (trimsBefore, rest) := trimSign (skipBlanks rest)
  let rest ← expectAll signs rest
  let (tag, rest) ← inside (skipBlanks rest)
  let rest ← expectAll signsBehind rest
  let (trimsAfter, rest) := trimSign (skipBlanks rest)
  let rest ← expect right (skipBlanks rest)
  return ({ tag, trimsBefore, trimsAfter }, rest)

/-- The braces of a tag. -/
def leftBraces : String := "\x7b\x7b"

@[inherit_doc leftBraces]
def rightBraces : String := "\x7d\x7d"

/-- A tag between double braces. -/
def tagWith (signs : List String) (inside : Reader Tag) : Reader Token :=
  tagBetween leftBraces signs inside [] rightBraces

/-- Read a line and make a tag of it. -/
def ofLine (line : Reader (Line String)) (tag : Line String → Tag) : Reader Tag := fun cs =>
  (line cs).map fun (l, rest) => (tag l, rest)

/-- The inside of a tag that has none. -/
def nothing (tag : Tag) : Reader Tag := fun cs => some (tag, cs)

/-- The inside of a closing tag. -/
def closing : Reader Tag := fun cs =>
  let plain := (Grammar.name cs).filter fun (_, rest) =>
    (expect rightBraces (skipBlanks (trimSign (skipBlanks rest)).2)).isSome
  (plain.map fun (n, rest) => (.close n true, rest))
    <|> ((Grammar.partName cs).map fun (n, rest) => (.close n false, rest))
    <|> ((Grammar.path cs).map fun (p, rest) => (.close p.source false, rest))

/-- A comment: between two pairs of dashes it may hold braces. -/
def commentTag : Reader Token := fun cs => do
  let inside ← expect (leftBraces ++ "!") cs
  let long := (expect "--" (skipBlanks inside)).bind fun rest =>
    Text.splitOnce ("--" ++ rightBraces).toList rest
  let (_, rest) ← long <|> Text.splitOnce rightBraces.toList inside
  return ({ tag := .comment }, rest)

/-- A tag of a kind that stands for itself. -/
def anyTag : Reader Token := fun cs =>
  tagWith ["else"] (ofLine Grammar.blockLine .branch) cs
    <|> tagWith ["^"] (ofLine Grammar.blockLine .branch) cs
    <|> tagWith ["else"] (nothing .otherwise) cs
    <|> tagWith ["^"] (nothing .otherwise) cs
    <|> tagWith [] (ofLine Grammar.valueLine (.value · true)) cs
    <|> tagBetween "\x7b\x7b\x7b" [] (ofLine Grammar.valueLine (.value · false)) []
      "\x7d\x7d\x7d" cs
    <|> tagBetween leftBraces ["\x7b"] (ofLine Grammar.valueLine (.value · false)) ["\x7d"]
      rightBraces cs
    <|> tagWith ["&"] (fun cs =>
      (Grammar.callee cs).map fun (callee, rest) => (.value { callee } false, rest)) cs
    <|> tagWith ["#"] (ofLine Grammar.blockLine .block) cs
    <|> tagWith ["*"] (ofLine Grammar.blockLine .decorator) cs
    <|> tagWith ["#", "*"] (ofLine Grammar.blockLine .openDecorator) cs
    <|> tagWith [">"] (ofLine Grammar.partLine .part) cs
    <|> tagWith ["#", ">"] (ofLine Grammar.partLine .openPart) cs
    <|> tagWith ["/"] closing cs
    <|> commentTag cs

/-! ## Reading text -/

/-- Take text up to the next tag. The number counts the backslashes that have just been passed. -/
def takeText (backslashes : Nat) : List Char → List Char × List Char
  | '\x7b' :: '\x7b' :: '\x7b' :: '\x7b' :: cs =>
    if backslashes = 1 then
      let (text, rest) := takeText 0 cs
      ('\x7b' :: '\x7b' :: '\x7b' :: '\x7b' :: text, rest)
    else
      (List.replicate (backslashes - 1) '\\', '\x7b' :: '\x7b' :: '\x7b' :: '\x7b' :: cs)
  | '\x7b' :: '\x7b' :: cs =>
    if backslashes = 1 then
      let (text, rest) := takeText 0 cs
      ('\x7b' :: '\x7b' :: text, rest)
    else (List.replicate (backslashes - 1) '\\', '\x7b' :: '\x7b' :: cs)
  | '\\' :: cs => takeText (backslashes + 1) cs
  | c :: cs =>
    let (text, rest) := takeText 0 cs
    (List.replicate backslashes '\\' ++ c :: text, rest)
  | [] => (List.replicate backslashes '\\', [])

/-! ## Taking a source apart -/

namespace Position

/-- The place behind some characters. A line ends with a line feed. -/
def pastAll (p : Position) : List Char → Position
  | [] => p
  | '\n' :: cs => pastAll ⟨p.line + 1, 1⟩ cs
  | '\r' :: '\n' :: cs => pastAll ⟨p.line + 1, 1⟩ cs
  | _ :: cs => pastAll ⟨p.line, p.column + 1⟩ cs

end Position

/-- A place in a source: what has been passed, the last character first, and what is left. -/
structure Cursor where
  passed : List Char := []
  position : Position := {}
  rest : List Char

namespace Cursor

/-- Go to where `rest` is left. -/
def moveTo (c : Cursor) (rest : List Char) : Cursor :=
  let moved := c.rest.take (c.rest.length - rest.length)
  { passed := moved.reverse ++ c.passed, position := c.position.pastAll moved, rest }

/-- A blank inside of a line. -/
def isLineBlank (c : Char) : Bool := c = ' ' || c = '\t'

/-- A character that ends a line. -/
def isLineEnd (c : Char) : Bool := c = '\n' || c = '\r'

/-- Whether nothing but blanks has been passed in the present line. -/
def atLineStart (c : Cursor) : Bool :=
  match c.passed.dropWhile isLineBlank with
  | [] => true
  | d :: _ => isLineEnd d

/-- Whether nothing but blanks is left in the present line. The end of a source ends a line, but
not in a part. -/
def atLineEnd (c : Cursor) (inPart : Bool) : Bool :=
  match c.rest.dropWhile isLineBlank with
  | [] => c.rest.isEmpty && !inPart
  | d :: _ => isLineEnd d

/-- The blanks that have just been passed, if there are any. -/
def indent (c : Cursor) : Option String :=
  let blanks := c.passed.takeWhile isLineBlank
  if blanks.isEmpty then none else some (String.ofList blanks.reverse)

/-- Note how a tag stands that begins here and ends before `rest`. -/
def placed (c : Cursor) (inPart : Bool) (token : Token) (rest : List Char) : Piece :=
  .tag { token with
    position := c.position
    alone := c.atLineStart && (c.moveTo rest).atLineEnd inPart
    indent := c.indent }

end Cursor

/-- The four braces of a verbatim block. -/
def leftVerbatim : String := "\x7b\x7b\x7b\x7b"

@[inherit_doc leftVerbatim]
def rightVerbatim : String := "\x7d\x7d\x7d\x7d"

/-- Take text up to four braces, with the same rule for backslashes as outside of a block. -/
def takeVerbatim (backslashes : Nat) : List Char → List Char × List Char
  | '\x7b' :: '\x7b' :: '\x7b' :: '\x7b' :: cs =>
    if backslashes = 1 then
      let (text, rest) := takeVerbatim 0 cs
      ('\x7b' :: '\x7b' :: '\x7b' :: '\x7b' :: text, rest)
    else
      (List.replicate (backslashes - 1) '\\', '\x7b' :: '\x7b' :: '\x7b' :: '\x7b' :: cs)
  | '\x7b' :: '\x7b' :: cs =>
    let (text, rest) := takeVerbatim 0 cs
    (List.replicate (backslashes - 1) '\\' ++ '\x7b' :: '\x7b' :: text, rest)
  | '\\' :: cs => takeVerbatim (backslashes + 1) cs
  | c :: cs =>
    let (text, rest) := takeVerbatim 0 cs
    (List.replicate backslashes '\\' ++ c :: text, rest)
  | [] => (List.replicate backslashes '\\', [])

/-- A verbatim block, with its two tags and what stands between them. Blanks at the front of the
text are passed over. -/
def verbatimBlock (inPart : Bool) (c : Cursor) : Option (List Piece × Cursor) := do
  let (opening, rest) ← tagBetween leftVerbatim [] (ofLine Grammar.blockLine .block) []
    rightVerbatim c.rest
  let (text, behind) := takeVerbatim 0 (skipBlanks rest)
  let here := c.moveTo behind
  let (ending, rest') ← tagBetween leftVerbatim ["/"] (fun cs =>
    (Grammar.name cs).map fun (n, r) => (.close n true, r)) [] rightVerbatim behind
  return ([c.placed inPart opening rest, .verbatim (String.ofList text),
    here.placed inPart ending rest'], here.moveTo rest')

/-- Take a source apart, in at most `n` steps. -/
def piecesFrom (inPart : Bool) : Nat → Cursor → Option (List Piece)
  | 0, _ => none
  | n + 1, c =>
    let (text, rest) := takeText 0 c.rest
    let here := c.moveTo rest
    let pieces := if rest.length = c.rest.length then [] else [.text (String.ofList text)]
    if rest.isEmpty then some pieces
    else match anyTag rest with
      | some (token, behind) => do
        let further ← piecesFrom inPart n (here.moveTo behind)
        return pieces ++ here.placed inPart token behind :: further
      | none => do
        let (block, behind) ← verbatimBlock inPart here
        return pieces ++ block ++ (← piecesFrom inPart n behind)

/-- The pieces of a source, unless some braces in it are no tag. -/
def pieces (inPart : Bool) (source : String) : Option (List Piece) :=
  piecesFrom inPart (source.length + 1) { rest := source.toList }

end Mailroom.Template
