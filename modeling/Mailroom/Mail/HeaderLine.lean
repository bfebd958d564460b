import Mailroom.Mail.Domain
import Mailroom.Mail.Mailbox
import Mailroom.Text.Base64

/-!
# The lines of headers

The value of a header is written from left to right, and broken at gaps where a line would become
longer than 76 bytes. Words that a header cannot hold are written as encoded words, each of which
fits on a line. Spaces are held back until something follows them, so that a line can be broken in
front of them.
-/

namespace Mailroom.Mail

/-- The greatest length of a line, in bytes. -/
def lineLimit : Nat := 76

/-- A header being written: what stands there, the bytes on its last line, the spaces held back, and
whether the line has anything on it that a break may follow. -/
structure HeaderLine where
  written : List Char := []
  column : Nat
  gaps : Nat := 0
  breakable : Bool := false

namespace HeaderLine

/-- The value of the named header, of which nothing is written yet. -/
def ofName (name : String) : HeaderLine := { column := name.utf8ByteSize + 2 }

/-- The bytes on the line, with the spaces held back. -/
def width (l : HeaderLine) : Nat := l.column + l.gaps

/-- Write the spaces held back. -/
def settle (l : HeaderLine) : HeaderLine :=
  { l with
    written := l.written ++ List.replicate l.gaps ' '
    column := l.width
    gaps := 0 }

/-- Hold back a space. -/
def gap (l : HeaderLine) : HeaderLine := { l with gaps := l.gaps + 1 }

/-- Begin a new line. -/
def newLine (l : HeaderLine) : HeaderLine :=
  { l with written := l.written ++ ['\r', '\n'], column := 0, breakable := false }

/-- Write a text without breaking the line. -/
def put (cs : List Char) (l : HeaderLine) : HeaderLine :=
  if cs.isEmpty then l
  else
    let l := l.settle
    { l with
      written := l.written ++ cs
      column := l.column + Domain.size cs
      breakable := true }

/-- Write a word, on a new line if it is too long for this one and a gap is in front of it. -/
def putWord (cs : List Char) (l : HeaderLine) : HeaderLine :=
  let l := if l.breakable && 1 ≤ l.gaps && lineLimit < l.width + Domain.size cs
    then l.newLine else l
  l.put cs

/-- The words of a text between single spaces. -/
def wordsOf (cs : List Char) : List (List Char) := Text.splitAt ' ' cs

/-- Write words with a space between any two of them. -/
def putWords : List (List Char) → HeaderLine → HeaderLine
  | [], l => l
  | [w], l => if w.isEmpty then l else l.putWord w
  | w :: ws, l => putWords ws (if w.isEmpty then l else l.putWord w).gap

/-- What stands there in the end. -/
def text (l : HeaderLine) : String := String.ofList l.settle.written

/-! ## Encoded words -/

/-- How many bytes an encoded word on this line may stand for. -/
def room (l : HeaderLine) : Nat := (lineLimit - (14 + l.width)) / 4 * 3

/-- As many characters as there is room for, and what is left. -/
def fitting (room : Nat) : List Char → List Char × List Char
  | [] => ([], [])
  | c :: cs =>
    if c.utf8Size ≤ room then
      let (taken, rest) := fitting (room - c.utf8Size) cs
      (c :: taken, rest)
    else ([], c :: cs)

theorem fitting_length (room : Nat) (cs : List Char) : (fitting room cs).2.length ≤ cs.length := by
  induction cs generalizing room with
  | nil => simp [fitting]
  | cons c cs ih =>
    simp only [fitting]
    split
    · have := ih (room - c.utf8Size); simp only [List.length_cons]; omega
    · simp

/-- Write a text as encoded words. A word too long for the line begins a new line, unless nothing is
in front of it. -/
def putEncoded (wrote : Bool) (cs : List Char) (l : HeaderLine) : HeaderLine :=
  match cs with
  | [] => l
  | c :: cs =>
    let l := if c.utf8Size ≤ l.room ∨ !(wrote || 1 ≤ l.gaps) then l
      else if l.gaps = 0 then l.newLine.gap
      else l.newLine
    let taken := fitting (l.room - c.utf8Size) cs
    let word := "=?utf-8?b?".toList ++ Text.Base64.encode (Text.Base64.bytesOf (c :: taken.1))
      ++ ['?', '=']
    putEncoded true taken.2 (l.put word)
termination_by cs.length
decreasing_by
  exact Nat.lt_succ_of_le (fitting_length _ _)

/-! ## Texts and names -/

/-- A character that a header can hold as it is. -/
def isPlain (c : Char) : Bool :=
  let n := c.toNat
  (1 ≤ n && n ≤ 9) || n = 11 || n = 12 || (14 ≤ n && n ≤ 127)

/-- Write held words as encoded words, and the spaces at their end as spaces. -/
def putHeld (held : List Char) (l : HeaderLine) : HeaderLine :=
  let spaces := (held.reverse.takeWhile (· == ' ')).length
  let l := l.putEncoded false (held.take (held.length - spaces))
  { l with gaps := l.gaps + spaces }

/-- Write words, each of them but the last with the space behind it. Words that a header cannot hold
are gathered as long as they follow each other. -/
def putText (held : List Char) : List (List Char) → HeaderLine → HeaderLine
  | [], l => l.putHeld held
  | [w], l =>
    if w.all isPlain then (if w.isEmpty then l.putHeld held else (l.putHeld held).putWord w)
    else l.putHeld (held ++ w)
  | w :: ws, l =>
    if w.all isPlain then
      putText [] ws (if w.isEmpty then l.putHeld held else (l.putHeld held).putWord w).gap
    else putText (held ++ w ++ [' ']) ws l

/-- The value of a header that holds any text. -/
def ofText (name value : String) : String :=
  ((ofName name).putText [] (wordsOf value.toList)).text

/-- How the name of an owner is written. -/
inductive NameForm where
  | plain | quoted | encoded
deriving DecidableEq, Repr

/-- A name is written as it is when it is one word, and between quotes when it is seen ASCII text
and spaces; a comma, or what looks like an encoded word, makes it an encoded one. -/
def formOf (name : List Char) : NameForm :=
  if name.all (fun c => (c.toNat < 0x80 && isAtomChar c) || c = '.')
      && !Text.occursIn ['=', '?'] name then .plain
  else if name.all (fun c => isVisible c || c = ' ') && !name.contains ','
      && !Text.occursIn ['=', '?'] name then .quoted
  else .encoded

/-- Write the name of an owner. -/
def putName (name : List Char) (l : HeaderLine) : HeaderLine :=
  match formOf name with
  | .plain => l.put name
  | .quoted =>
    (l.put ['"'] |>.putWords (wordsOf (name.flatMap Mailbox.quotedNameChar))).put ['"']
  | .encoded => l.putEncoded false name

/-- Write a mailbox. -/
def putMailbox (m : Mailbox) (l : HeaderLine) : HeaderLine :=
  match m.name with
  | none => l.put m.address.text.toList
  | some name =>
    ((l.putName name.toList).gap.put ['<']).put m.address.text.toList |>.put ['>']

/-- Write mailboxes with commas between them. -/
def putMailboxes : List Mailbox → HeaderLine → HeaderLine
  | [], l => l
  | [m], l => l.putMailbox m
  | m :: ms, l => putMailboxes ms ((l.putMailbox m).put [',']).gap

/-- The value of a header that holds mailboxes. -/
def ofMailboxes (name : String) (ms : List Mailbox) : String :=
  ((ofName name).putMailboxes ms).text

end HeaderLine

end Mailroom.Mail
