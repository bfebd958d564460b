import Mailroom.Mail.Address

/-!
# Mailboxes

An address with or without the name of its owner, as in `Ann <ann@example.org>`, and lists of them
between commas. A name is words, quoted texts and dots; gaps between words are one space or tab
wide, whatever was written. Each reader below takes what it can from the front of a text, and its
choice is final.
-/

namespace Mailroom.Mail

/-- An address and the name of its owner. -/
structure Mailbox where
  name : Option String := none
  address : Address
deriving DecidableEq, Repr

namespace Mailbox

/-- Takes at least one character from the front of a text, and gives what is left. -/
abbrev Reader (α : Type) :=
  (cs : List Char) → Option (α × { rest : List Char // rest.length < cs.length })

/-- The gap in front of a word, of which one character is kept, and what follows. -/
def gap (cs : List Char) : List Char × List Char :=
  (cs.take 1 |>.filter isGap, cs.dropWhile isGap)

theorem length_dropWhile_le (p : Char → Bool) (cs : List Char) :
    (cs.dropWhile p).length ≤ cs.length := (List.dropWhile_suffix p).length_le

theorem length_dropWhile_lt (p : Char → Bool) (c : Char) (cs : List Char) :
    (cs.dropWhile p).length < (c :: cs).length := Nat.lt_succ_of_le (length_dropWhile_le p cs)

/-- A run of characters that may stand in a word. -/
def run : Reader (List Char) := fun cs =>
  match cs with
  | [] => none
  | c :: rest =>
    if isAtomChar c then
      some (c :: rest.takeWhile isAtomChar,
        ⟨rest.dropWhile isAtomChar, length_dropWhile_lt isAtomChar c rest⟩)
    else none

/-- A word with the gap in front of it. -/
def word : Reader (List Char) := fun cs =>
  (run (gap cs).2).map fun (text, rest) => ((gap cs).1 ++ text, ⟨rest.1, by
    have h := rest.2
    have := length_dropWhile_le isGap cs
    simp only [gap] at h; omega⟩)

/-- What is between the quotes, behind the first of them. The first character of a gap is kept when
something follows it; blanks of other kinds may stand before the last quote only. -/
def quotedText (held : List Char) : (cs : List Char) →
    Option (List Char × { rest : List Char // rest.length < cs.length })
  | [] => none
  | '\\' :: c :: cs =>
    if isVisible c || isGap c then
      (quotedText [] cs).map fun (text, rest) => (held ++ c :: text, ⟨rest.1, by
        have := rest.2; simp only [List.length_cons]; omega⟩)
    else none
  | c :: cs =>
    if c = '"' then some ([], ⟨cs, by simp⟩)
    else if isGap c then
      (quotedText (if held.isEmpty then [c] else held) cs).map fun (text, rest) =>
        (text, ⟨rest.1, by have := rest.2; simp only [List.length_cons]; omega⟩)
    else if isQuotable c then
      (quotedText [] cs).map fun (text, rest) => (held ++ c :: text, ⟨rest.1, by
        have := rest.2; simp only [List.length_cons]; omega⟩)
    else if Text.isBlank c then
      match h : cs.dropWhile Text.isBlank with
      | '"' :: rest => some ([], ⟨rest, by
          have := length_dropWhile_le Text.isBlank cs
          simp only [h, List.length_cons] at this ⊢; omega⟩)
      | _ => none
    else none

/-- A text between quotes. -/
def quotation : Reader (List Char) := fun cs =>
  match cs with
  | '"' :: inner => (quotedText [] inner).map fun (text, rest) => (text, ⟨rest.1, by
      have := rest.2; simp only [List.length_cons]; omega⟩)
  | _ => none

/-- A quoted text or a word. -/
def term : Reader (List Char) := fun cs => quotation cs <|> word cs

/-- A dot. -/
def dot : Reader (List Char) := fun cs =>
  match cs with
  | '.' :: rest => some (['.'], ⟨rest, by simp⟩)
  | _ => none

/-- A dot with what follows it. -/
def dotted (item : Reader (List Char)) : Reader (List Char) := fun cs =>
  match cs with
  | '.' :: rest => (item rest).map fun (text, left) => ('.' :: text, ⟨left.1, by
      have := left.2; simp only [List.length_cons]; omega⟩)
  | _ => none

/-- As many items as there are. -/
def many (item : Reader (List Char)) (cs : List Char) : List Char × List Char :=
  match item cs with
  | none => ([], cs)
  | some (text, rest) =>
    let (texts, left) := many item rest.1
    (text ++ texts, left)
termination_by cs.length
decreasing_by exact rest.2

/-- Takes something from the front of a text, if only nothing at all. -/
abbrev Part (α : Type) := List Char → Option (α × List Char)

/-- An item, and after it as many of another kind as there are. -/
def followed (first next : Reader (List Char)) : Part (List Char) := fun cs =>
  (first cs).map fun (text, rest) =>
    let (texts, left) := many next rest.1
    (text ++ texts, left)

/-- Two or more words between dots, with the gap in front of the first. -/
def dottedWords : Part (List Char) := fun cs => do
  let (first, rest) ← word cs
  let (second, rest) ← dotted run rest.1
  let (texts, left) := many (dotted run) rest.1
  some (first ++ second ++ texts, left)

/-- The user of an address. -/
def user : Part (List Char) := fun cs =>
  dottedWords cs <|> (quotation cs).map (fun (text, rest) => (text, rest.1))
    <|> followed term (dotted term) cs

/-- The domain of an address. -/
def domain : Part (List Char) := fun cs => dottedWords cs <|> followed word (dotted word) cs

/-- The user and the domain of a bare address. -/
def bare : Part (List Char × List Char) := fun cs => do
  let (user, rest) ← user cs
  let rest ← Text.after? ['@'] rest
  let (domain, rest) ← domain rest
  some ((user, domain), rest)

/-- The name of an owner. -/
def owner : Part (List Char) := followed term fun cs => term cs <|> dot cs

/-- An address between angle brackets, with or without a name in front of it. -/
def named : Part (Option (List Char) × List Char × List Char) := fun cs => do
  let (name, rest) := match owner cs with
    | some (name, rest) => (some name, rest)
    | none => (none, cs)
  let rest ← Text.after? ['<'] (Text.trimLeft rest)
  let (parts, rest) ← bare rest
  let rest ← Text.after? ['>'] rest
  some ((name, parts), Text.trimLeft rest)

/-- The parts of a mailbox: the name, the user and the domain. -/
def parts : Part (Option (List Char) × List Char × List Char) := fun cs =>
  named cs <|> (bare cs).map fun (parts, rest) => ((none, parts), rest)

/-- The mailbox with the given parts. -/
def ofParts : Option (List Char) × List Char × List Char → Except AddressError Mailbox
  | (name, user, domain) => do
    let address ← Address.ofParts (String.ofList user) (String.ofList domain)
    return { name := name.map String.ofList, address }

/-- The mailbox that a text stands for. -/
def ofText (s : String) : Except AddressError Mailbox :=
  match parts (Text.trimLeft s.toList) with
  | some (p, rest) => if (Text.trimLeft rest).isEmpty then ofParts p else .error .unreadable
  | none => .error .unreadable

/-- The parts of the mailboxes of a list, with what follows it. The number bounds the list. -/
def listParts : Nat → Part (List (Option (List Char) × List Char × List Char))
  | 0, _ => none
  | n + 1, cs => do
    let (p, rest) ← parts cs
    let more := (Text.after? [','] (Text.trimLeft rest)).bind fun rest =>
      listParts n (Text.trimLeft rest)
    match more with
    | some (ps, rest) => some (p :: ps, rest)
    | none => some ([p], rest)

/-- The mailboxes that a text lists. -/
def listOfText (s : String) : Except AddressError (List Mailbox) :=
  match listParts (s.length + 1) s.toList with
  | some (ps, []) => ps.mapM ofParts
  | _ => .error .unreadable

/-! ## Written form -/

/-- A character that a name may hold without quotes around the whole. -/
def isPlainNameChar (c : Char) : Bool := isGap c || isAtomChar c

/-- A character between quotes. -/
def quotedNameChar (c : Char) : List Char :=
  if c = '"' || c = '\\' then ['\\', c] else [c]

/-- The name of an owner, between quotes if it needs them. -/
def nameText (name : String) : List Char :=
  let cs := name.toList
  if cs.all isPlainNameChar then cs else '"' :: (cs.flatMap quotedNameChar ++ ['"'])

/-- The text of a mailbox. A name of blanks alone is left out. -/
def text (m : Mailbox) : String :=
  let name := Text.trim (m.name.getD "")
  if name = "" then m.address.text
  else String.ofList (nameText name) ++ " <" ++ m.address.text ++ ">"

/-- The text of a list of mailboxes. -/
def listText (ms : List Mailbox) : String := ", ".intercalate (ms.map text)

end Mailbox

end Mailroom.Mail
