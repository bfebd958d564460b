import Mailroom.Toml.Basic
import Mailroom.Net.Ip

/-!
# Strings and keys of TOML documents

A string stands between quotes, in which a backslash begins an escape, or between apostrophes, in
which every character stands for itself. Three of either enclose a string of several lines.
-/

namespace Mailroom.Toml

/-- The character of a code in hexadecimal digits, as many as `length` says. -/
def readCode (length : Nat) (cs : List Char) : Option (Char × List Char) := do
  let digits := cs.take length
  if digits.length < length then none
  let n ← Net.Ip.number? 16 length Net.Ip.hexadecimal? digits
  if n.isValidChar then some (Char.ofNat n, cs.drop length) else none

/-- The character of an escape, without its backslash. -/
def readEscape : List Char → Option (Char × List Char)
  | 'b' :: cs => some ('\x08', cs)
  | 't' :: cs => some ('\t', cs)
  | 'n' :: cs => some ('\n', cs)
  | 'f' :: cs => some ('\x0c', cs)
  | 'r' :: cs => some ('\r', cs)
  | '"' :: cs => some ('"', cs)
  | '\\' :: cs => some ('\\', cs)
  | 'u' :: cs => readCode 4 cs
  | 'U' :: cs => readCode 8 cs
  | _ => none

/-- The rest of a string of one line between quotes. The number bounds its characters. -/
def readQuoted : Nat → List Char → Option (List Char × List Char)
  | 0, _ => none
  | _, [] => none
  | _ + 1, '"' :: cs => some ([], cs)
  | n + 1, '\\' :: cs => do
    let (c, cs) ← readEscape cs
    let (text, cs) ← readQuoted n cs
    some (c :: text, cs)
  | n + 1, c :: cs =>
    if isPlain c then do
      let (text, cs) ← readQuoted n cs
      some (c :: text, cs)
    else none

/-- The rest of a string of one line between apostrophes. -/
def readLiteral (cs : List Char) : Option (List Char × List Char) :=
  match cs.dropWhile fun c => isPlain c && c != '\'' with
  | '\'' :: rest => some (cs.takeWhile fun c => isPlain c && c != '\'', rest)
  | _ => none

/-- Pass over the end of a line at the front. -/
def skipLineEnd (cs : List Char) : List Char := (pastLine? cs).getD cs

/-- Pass over blanks and ends of lines. -/
def skipGap : Nat → List Char → List Char
  | 0, cs => cs
  | n + 1, cs =>
    let cs := skipBlanks cs
    match pastLine? cs with
    | some rest => skipGap n rest
    | none => cs

/-- The rest of a string of several lines. It ends at three marks, and up to two more in front of
them belong to it. The number bounds its characters. -/
def readLong (mark : Char) (escapes : Bool) : Nat → List Char → Option (List Char × List Char)
  | 0, _ => none
  | _, [] => none
  | n + 1, c :: cs =>
    let marks := ((c :: cs).takeWhile (· = mark)).length
    if 3 ≤ marks then
      let taken := min marks 5
      some (List.replicate (taken - 3) mark, (c :: cs).drop taken)
    else if c = '\\' ∧ escapes then
      match pastLine? (skipBlanks cs) with
      | some rest => readLong mark escapes n (skipGap rest.length rest)
      | none => do
        let (d, cs) ← readEscape cs
        let (text, cs) ← readLong mark escapes n cs
        some (d :: text, cs)
    else
      match pastLine? (c :: cs) with
      | some rest => do
        let (text, rest) ← readLong mark escapes n rest
        some ('\n' :: text, rest)
      | none =>
        if isPlain c then do
          let (text, cs) ← readLong mark escapes n cs
          some (c :: text, cs)
        else none

/-- A string. -/
def readString (cs : List Char) : Option (String × List Char) :=
  (if let some rest := past? "\"\"\"" cs then
    readLong '"' true (rest.length + 1) (skipLineEnd rest)
  else if let some rest := past? "'''" cs then
    readLong '\'' false (rest.length + 1) (skipLineEnd rest)
  else match cs with
    | '"' :: rest => readQuoted (rest.length + 1) rest
    | '\'' :: rest => readLiteral rest
    | _ => none).map fun (text, rest) => (String.ofList text, rest)

/-- A character of a key without quotes. -/
def isKeyChar (c : Char) : Bool := c.isAlphanum || c = '-' || c = '_'

/-- A single key. -/
def readKey (cs : List Char) : Option (String × List Char) :=
  match cs with
  | '"' :: rest =>
    (readQuoted (rest.length + 1) rest).map fun (text, rest) => (String.ofList text, rest)
  | '\'' :: rest => (readLiteral rest).map fun (text, rest) => (String.ofList text, rest)
  | _ =>
    let key := cs.takeWhile isKeyChar
    if key.isEmpty then none else some (String.ofList key, cs.dropWhile isKeyChar)

/-- Keys between dots, at least one of them. The number bounds them. -/
def readKeys : Nat → List Char → Option (List String × List Char)
  | 0, _ => none
  | n + 1, cs => do
    let (key, rest) ← readKey (skipBlanks cs)
    match skipBlanks rest with
    | '.' :: rest =>
      let (keys, rest) ← readKeys n rest
      some (key :: keys, rest)
    | rest => some ([key], rest)

end Mailroom.Toml
