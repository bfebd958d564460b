import Mailroom.Json.Reader
import Mailroom.Template.Token
import Mailroom.Text.Blank
import Mailroom.Text.Quoted

/-!
# Reading templates

From the pieces of a source to the tree of a template. First the tags must match in kind; then the
tree is built from the front to the back, where a literal must be a JSON value and a block must be
closed by its own name. On the way blanks are removed: where a tag says so, and around a tag that
opens, divides or closes a block and stands alone in its line.
-/

namespace Mailroom.Template

/-- Why a source is no template. -/
inductive CompileError where
  | notATemplate
  | otherBlockClosed (opened closed : String)
  | otherDecoratorClosed (opened closed : String)
  | badLiteral (text : String)
deriving DecidableEq, Repr

/-- The wording of a failure. -/
def CompileError.message : CompileError → String
  | .notATemplate => "invalid handlebars syntax"
  | .otherBlockClosed opened closed =>
    s!"helper {Text.quoted opened} was opened, but {Text.quoted closed} is closing"
  | .otherDecoratorClosed opened closed =>
    s!"decorator {Text.quoted opened} was opened, but {Text.quoted closed} is closing"
  | .badLiteral text => s!"invalid parameter {Text.quoted text}"

/-! ## Matching tags -/

/-- What is open: a block that may still get branches, a block in its last branch, a decorator or a
part. -/
inductive Open where
  | block | lastBranch | decorator | part
deriving DecidableEq, Repr

/-- Whether all that is opened is closed by a tag of its kind. -/
def matched : List Open → List Piece → Bool
  | opened, [] => opened.isEmpty
  | opened, .text _ :: ps => matched opened ps
  | opened, .verbatim _ :: ps => matched opened ps
  | opened, .tag t :: ps =>
    match t.tag, opened with
    | .block _, _ => matched (.block :: opened) ps
    | .openDecorator _, _ => matched (.decorator :: opened) ps
    | .openPart _, _ => matched (.part :: opened) ps
    | .branch _, .block :: _ => matched opened ps
    | .branch _, _ => false
    | .otherwise, .block :: outer => matched (.lastBranch :: outer) ps
    | .otherwise, _ => false
    | .close _ plain, o :: outer => (plain || o = .part) && matched outer ps
    | .close _ _, [] => false
    | .value _ _, _ | .decorator _, _ | .part _, _ | .comment, _ => matched opened ps

/-! ## Literals -/

/-- A text in single quotes, in double ones: an escaped single quote is written bare, and a double
one is escaped. -/
def requoted : List Char → List Char
  | [] => []
  | '\\' :: '\'' :: cs => '\'' :: requoted cs
  | c :: cs => if c = '"' then '\\' :: '"' :: requoted cs else c :: requoted cs

/-- The value of a literal. -/
def readLiteral (text : String) : Except CompileError Json :=
  let asJson := match text.toList with
    | '\'' :: cs => String.ofList ('"' :: requoted cs.dropLast ++ ['"'])
    | _ => text
  match Json.read asJson with
  | .ok v => .ok v
  | .error _ => .error (.badLiteral text)

mutual

/-- An argument with the values of its literals. -/
def Argument.valued : Argument String → Except CompileError (Argument Json)
  | .word name => .ok (.word name)
  | .path p => .ok (.path p)
  | .literal text => (readLiteral text).map .literal
  | .call callee given => do return .call (← callee.valued) (← valuedAll given)

@[inherit_doc Argument.valued]
def valuedAll : List (Option String × Argument String) →
    Except CompileError (List (Option String × Argument Json))
  | [] => .ok []
  | (key, argument) :: rest => do return (key, ← argument.valued) :: (← valuedAll rest)

end

/-- A line with the values of its literals. -/
def Line.valued (l : Line String) : Except CompileError (Line Json) := do
  return { callee := ← l.callee.valued, given := ← valuedAll l.given, names := l.names }

/-! ## Building the tree -/

/-- What has been opened and is not yet closed. -/
inductive Opening where
  | block
  | decorator
  | part (indent : Option String)

/-- A block under construction: its opening tag, the branches that are complete, the last one
first, and the line of the branch in progress, which is absent in the branch for all other
cases. -/
structure Frame where
  opening : Opening
  line : Line Json
  position : Position
  done : List (Line Json × Body) := []
  current : Option (Line Json)
  /-- The elements around the block, the last one first. -/
  around : Body

/-- Put the branches of a block together, each one in the other case of the one before it. The
branches are given the last one first. -/
def assemble (otherwise : Option Body) (position : Position) :
    List (Line Json × Body) → Option (Option Position × Element)
  | [] => none
  | [(line, body)] => some (some position, .block line body otherwise)
  | (line, body) :: earlier =>
    assemble (some [(none, .block line body otherwise)]) position earlier

/-- The element of a block that is complete. -/
def Frame.element (f : Frame) (body : Body) (name : String) :
    Except CompileError (Option Position × Element) :=
  match f.opening with
  | .block =>
    if f.line.callee.title ≠ name then .error (.otherBlockClosed f.line.callee.title name)
    else
      let (branches, otherwise) := match f.current with
        | some line => ((line, body) :: f.done, none)
        | none => (f.done, some body)
      match assemble otherwise f.position branches with
      | some e => .ok e
      | none => .error .notATemplate
  | .decorator =>
    if f.line.callee.title ≠ name then .error (.otherDecoratorClosed f.line.callee.title name)
    else .ok (some f.position, .decorator f.line (some body))
  | .part indent =>
    if f.line.callee.title ≠ name then .error (.otherDecoratorClosed f.line.callee.title name)
    else .ok (some f.position, .part f.line indent (some body))

/-- A tree under construction. -/
structure Workbench where
  /-- The elements of the innermost body, the last one first. -/
  items : Body := []
  frames : List Frame := []
  /-- Whether the last tag removes the blanks behind it. -/
  trimsAfter : Bool := false
  /-- Whether the rest of the line of the last tag is removed. -/
  trimsLine : Bool := false

namespace Workbench

/-- Apply a function to the last element if it is text. -/
def mapLastText (f : List Char → List Char) (w : Workbench) : Workbench :=
  match w.items with
  | (p, .text s) :: rest => { w with items := (p, .text (String.ofList (f s.toList))) :: rest }
  | _ => w

/-- Add an element. -/
def push (position : Option Position) (e : Element) (w : Workbench) : Workbench :=
  { w with items := (position, e) :: w.items }

/-- Remove blanks up to the end of a line, and the end itself. -/
def dropLineRest (cs : List Char) : List Char :=
  match cs.dropWhile Cursor.isLineBlank with
  | '\r' :: '\n' :: rest => rest
  | '\n' :: rest => rest
  | rest => rest

/-- Text without the blanks that the tag in front of it removes. -/
def trimmed (w : Workbench) (text : List Char) : List Char :=
  if w.trimsAfter then Text.trimLeft text
  else if w.trimsLine then dropLineRest text
  else text

/-- Add text. Between two tags of which the first removes blanks, blanks leave nothing. -/
def addText (text : String) (w : Workbench) : Workbench :=
  let cs := text.toList
  if w.trimsAfter && cs.all Grammar.isBlank then w
  else { w.push none (.text (String.ofList (w.trimmed cs))) with trimsLine := false }

/-- What a tag with an inside does to the blanks around it. -/
def trimAround (t : Token) (w : Workbench) : Workbench :=
  let w := if t.trimsBefore then w.mapLastText Text.trimRight else w
  { w with trimsAfter := t.trimsAfter }

/-- What a tag does to its line when it stands alone there. -/
def trimLine (t : Token) (w : Workbench) : Workbench :=
  let w := if t.alone then
      w.mapLastText fun cs => (cs.reverse.dropWhile Cursor.isLineBlank).reverse
    else w
  { w with trimsLine := t.alone }

/-- Go into the body of what a tag opens. -/
def enter (opening : Opening) (line : Line Json) (t : Token) (w : Workbench) : Workbench :=
  let frame := { opening, line, position := t.position, current := some line, around := w.items }
  { w with items := [], frames := frame :: w.frames }

/-- The body that is complete. -/
def body (w : Workbench) : Body := w.items.reverse

/-- Complete a branch, and begin another one. -/
def divide (next : Option (Line Json)) (w : Workbench) : Except CompileError Workbench :=
  match w.frames with
  | f :: frames =>
    match f.current with
    | some line =>
      .ok { w with
        items := []
        frames := { f with done := (line, w.body) :: f.done, current := next } :: frames }
    | none => .error .notATemplate
  | [] => .error .notATemplate

/-- Complete what was opened last. -/
def leave (name : String) (w : Workbench) : Except CompileError Workbench :=
  match w.frames with
  | f :: frames => do
    let e ← f.element w.body name
    return { w with items := e :: f.around, frames }
  | [] => .error .notATemplate

/-- Add a tag. -/
def addTag (t : Token) (w : Workbench) : Except CompileError Workbench :=
  match t.tag with
  | .value line escaped => do
    let line ← line.valued
    return (w.trimAround t).push (some t.position) (.value line escaped)
  | .block line => do
    let line ← line.valued
    return ((w.trimAround t).trimLine t).enter .block line t
  | .branch line => do
    let line ← line.valued
    ((w.trimAround t).trimLine t).divide (some line)
  | .otherwise => ((w.trimAround t).trimLine t).divide none
  | .close name _ => ((w.trimAround t).trimLine t).leave name
  | .decorator line => do
    let line ← line.valued
    return ((w.trimAround t).trimLine t).push (some t.position) (.decorator line none)
  | .openDecorator line => do
    let line ← line.valued
    return ((w.trimAround t).trimLine t).enter .decorator line t
  | .part line => do
    let line ← line.valued
    return { w.trimAround t with trimsLine := t.alone }.push (some t.position)
      (.part line t.indent none)
  | .openPart line => do
    let line ← line.valued
    return ((w.trimAround t).trimLine t).enter (.part none) line t
  | .comment => return (w.trimLine t).push (some t.position) .comment

/-- Add a piece. -/
def add (w : Workbench) : Piece → Except CompileError Workbench
  | .text s => .ok (w.addText s)
  | .verbatim s => .ok (w.push none (.text (String.ofList (w.trimmed s.toList))))
  | .tag t => w.addTag t

end Workbench

/-- Read a source. What is read as a part has a name, and the end of its source does not end a
line. -/
def compile (name : Option String) (source : String) : Except CompileError Compiled :=
  match pieces name.isSome source with
  | none => .error .notATemplate
  | some ps =>
    if !matched [] ps then .error .notATemplate
    else do
      let w ← ps.foldlM Workbench.add {}
      return { name, body := w.body }

end Mailroom.Template
