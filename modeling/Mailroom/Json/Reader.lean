import Mailroom.Json.Basic

/-!
# Reading JSON

A reader for one JSON document. It refuses what is not JSON at the first character that cannot
stand where it does, and says where that is: a fault names the line and the column, counted in
bytes, up to and with the offending byte, or the end of what has been taken in when the fault lies
in a token that is complete.

Integers that fit into 64 bits stay integers. Every other number is put together from at most
nineteen or twenty leading digits and one multiplication or division by a power of ten, each
rounded; so the last bit of a long number may differ from that of the nearest binary64 number.
-/

namespace Mailroom.Json

/-- What is wrong with a document. -/
inductive Fault where
  | endInList | endInObject | endInString | endInValue
  | expectedColon | expectedListEnd | expectedObjectEnd
  | expectedWord | expectedValue
  | invalidEscape | invalidNumber | numberOutOfRange
  | controlCharacter | keyNotString | loneSurrogate
  | trailingComma | trailingCharacters | endOfHexEscape | tooDeep
deriving DecidableEq, Repr

/-- The wording of a fault. -/
def Fault.message : Fault → String
  | .endInList => "EOF while parsing a list"
  | .endInObject => "EOF while parsing an object"
  | .endInString => "EOF while parsing a string"
  | .endInValue => "EOF while parsing a value"
  | .expectedColon => "expected `:`"
  | .expectedListEnd => "expected `,` or `]`"
  | .expectedObjectEnd => "expected `,` or `\x7d`"
  | .expectedWord => "expected ident"
  | .expectedValue => "expected value"
  | .invalidEscape => "invalid escape"
  | .invalidNumber => "invalid number"
  | .numberOutOfRange => "number out of range"
  | .controlCharacter =>
    "control character (\\u0000-\\u001F) found while parsing a string"
  | .keyNotString => "key must be a string"
  | .loneSurrogate => "lone leading surrogate in hex escape"
  | .trailingComma => "trailing comma"
  | .trailingCharacters => "trailing characters"
  | .endOfHexEscape => "unexpected end of hex escape"
  | .tooDeep => "recursion limit exceeded"

/-- A place in a document: a line, counted from one, and the number of bytes before the place on
that line. -/
structure Position where
  line : Nat := 1
  column : Nat := 0
deriving DecidableEq, Repr

namespace Position

/-- The place behind the first byte of a character. -/
def pastByte (p : Position) (c : Char) : Position :=
  if c = '\n' then ⟨p.line + 1, 0⟩ else ⟨p.line, p.column + 1⟩

/-- The place behind a character. -/
def past (p : Position) (c : Char) : Position :=
  if c = '\n' then ⟨p.line + 1, 0⟩ else ⟨p.line, p.column + c.utf8Size⟩

/-- The place behind several characters. -/
def pastAll (p : Position) (cs : List Char) : Position := cs.foldl past p

/-- The place behind the first `n` bytes of a text. -/
def pastBytes (p : Position) : Nat → List Char → Position
  | _, [] => p
  | n, c :: cs =>
    if n = 0 then p
    else if c.utf8Size ≤ n then pastBytes (p.past c) (n - c.utf8Size) cs
    else ⟨p.line, p.column + n⟩

end Position

/-- A step into a value: an item of an array, or a member of an object. The key of a member is not
known where the key itself cannot be read. -/
inductive Step where
  | item (index : Nat)
  | member (key : String)
  | unknown
deriving DecidableEq, Repr

/-- Why a document is refused, and where: the place in the text, and the steps that lead to the
value that cannot be read. -/
structure ReadError where
  fault : Fault
  position : Position
  steps : List Step := []
deriving DecidableEq, Repr

namespace ReadError

/-- The wording of a refusal. -/
def message (e : ReadError) : String :=
  s!"{e.fault.message} at line {e.position.line} column {e.position.column}"

/-- Steps into a value. All but the first of them and the items have a dot in front. -/
def stepsText (isFirst : Bool) : List Step → String
  | [] => ""
  | .item n :: steps => s!"[{n}]" ++ stepsText false steps
  | .member key :: steps => (if isFirst then "" else ".") ++ key ++ stepsText false steps
  | .unknown :: steps => (if isFirst then "" else ".") ++ "?" ++ stepsText false steps

/-- The wording of a refusal, behind the steps that lead to it if any of them is known. -/
def placedMessage (e : ReadError) : String :=
  if e.steps.all (· == .unknown) then e.message
  else stepsText true e.steps ++ ": " ++ e.message

end ReadError

/-- What was read one step inside of a value. -/
def inside (step : Step) (result : Except ReadError α) : Except ReadError α :=
  result.mapError fun e => { e with steps := step :: e.steps }

/-- What is left to read, and where it begins. -/
structure Input where
  rest : List Char
  position : Position := {}

namespace Input

/-- A fault in what has been taken in. -/
def failHere (i : Input) (f : Fault) : Except ReadError α :=
  .error { fault := f, position := i.position }

/-- A fault at the next byte, or at the end when there is none. -/
def failNext (i : Input) (f : Fault) : Except ReadError α :=
  match i.rest with
  | [] => i.failHere f
  | c :: _ => .error { fault := f, position := i.position.pastByte c }

/-- Pass over the first `n` characters. -/
def skip (i : Input) (n : Nat) : Input :=
  ⟨i.rest.drop n, i.position.pastAll (i.rest.take n)⟩

/-- Pass over the blanks of JSON. -/
def skipBlanks (i : Input) : Input :=
  i.skip (i.rest.takeWhile fun c => c = ' ' ∨ c = '\n' ∨ c = '\t' ∨ c = '\r').length

end Input

/-! ## Numbers -/

/-- Take in digits as long as the value stays below `2 ^ 64`; the second answer counts the digits
taken. -/
def foldDigits (n : Nat) (taken : Nat) : List Char → Nat × Nat
  | [] => (n, taken)
  | d :: ds =>
    let next := n * 10 + (d.toNat - '0'.toNat)
    if next < Nat.pow 2 64 then foldDigits next (taken + 1) ds else (n, taken)

/-- `x * 10 ^ e` for a positive or negative `e`, in at most `fuel` steps of 308 powers and a last
one. There is no answer when the number is too large. -/
def scaleByTen : Nat → Float → Int → Option Float
  | 0, x, _ => some x
  | fuel + 1, x, e =>
    if e.natAbs ≤ 308 then
      let power := Float.ofScientific 1 false e.natAbs
      if 0 ≤ e then
        let y := x * power
        if y.isFinite then some y else none
      else some (x / power)
    else if x == 0.0 then some x
    else if 0 ≤ e then none
    else scaleByTen fuel (x / Float.ofScientific 1 false 308) (e + 308)

/-- The number `± significand * 10 ^ e`, where `i` is the input behind it. -/
def scaled (negative : Bool) (significand : Nat) (e : Int) (i : Input) :
    Except ReadError (Number × Input) :=
  match scaleByTen 3 (Float.ofNat significand) e with
  | some x => .ok (.float (if negative then -x else x), i)
  | none => i.failHere .numberOutOfRange

/-- The power of ten behind the letter `e`, which `i` begins with, on top of `e₀`. -/
def readPower (negative : Bool) (significand : Nat) (e₀ : Int) (i : Input) :
    Except ReadError (Number × Input) :=
  let i := i.skip 1
  let (down, i) := match i.rest with
    | '+' :: _ => (false, i.skip 1)
    | '-' :: _ => (true, i.skip 1)
    | _ => (false, i)
  match i.rest with
  | [] => i.failHere .endInValue
  | c :: _ =>
    if !c.isDigit then i.failNext .invalidNumber
    else
      let ds := i.rest.takeWhile Char.isDigit
      let fits := (List.range ds.length).find? fun k =>
        Nat.pow 2 31 ≤ Number.digitsValue 0 (ds.take (k + 1))
      match fits with
      | some k =>
        if significand ≠ 0 ∧ !down then (i.skip (k + 1)).failHere .numberOutOfRange
        else .ok (.float (if negative then -0.0 else 0.0), i.skip ds.length)
      | none =>
        let e : Int := Number.digitsValue 0 ds
        scaled negative significand (if down then e₀ - e else e₀ + e) (i.skip ds.length)

/-- The digits behind the point, which `i` begins with. -/
def readPlaces (negative : Bool) (significand : Nat) (e₀ : Int) (i : Input) :
    Except ReadError (Number × Input) :=
  let i := i.skip 1
  let ds := i.rest.takeWhile Char.isDigit
  if ds.isEmpty then
    i.failNext (if i.rest.isEmpty then .endInValue else .invalidNumber)
  else
    let (significand, taken) := foldDigits significand 0 ds
    let i := i.skip ds.length
    match i.rest with
    | 'e' :: _ | 'E' :: _ => readPower negative significand (e₀ - taken) i
    | _ => scaled negative significand (e₀ - taken) i

/-- A number, from its first digit on. -/
def readNumber (negative : Bool) (i : Input) : Except ReadError (Number × Input) :=
  match i.rest with
  | [] => i.failHere .endInValue
  | c :: cs =>
    if !c.isDigit then i.failNext .invalidNumber
    else
      let ds := i.rest.takeWhile Char.isDigit
      if c = '0' ∧ 1 < ds.length then Input.failNext (i.skip 1) .invalidNumber
      else
        let (significand, taken) := foldDigits 0 0 ds
        let beyond : Int := (ds.length - taken : Nat)
        let i := i.skip (cs.takeWhile Char.isDigit).length.succ
        match i.rest with
        | '.' :: _ => readPlaces negative significand beyond i
        | 'e' :: _ | 'E' :: _ => readPower negative significand beyond i
        | _ =>
          if beyond ≠ 0 then scaled negative significand beyond i
          else if !negative then .ok (.int significand, i)
          else if significand = 0 ∨ Nat.pow 2 63 < significand then
            .ok (.float (-(Float.ofNat significand)), i)
          else .ok (.int (-(significand : Int)), i)

/-! ## Strings -/

/-- The value of a hexadecimal digit. -/
def hexDigit? (c : Char) : Option Nat :=
  if c.isDigit then some (c.toNat - '0'.toNat)
  else if 'a' ≤ c ∧ c ≤ 'f' then some (c.toNat - 'a'.toNat + 10)
  else if 'A' ≤ c ∧ c ≤ 'F' then some (c.toNat - 'A'.toNat + 10)
  else none

/-- The four hexadecimal digits of an escape. -/
def readHex (i : Input) : Except ReadError (Nat × Input) :=
  if i.rest.foldr (fun c n => c.utf8Size + n) 0 < 4 then
    .error { fault := .endInString, position := i.position.pastAll i.rest }
  else match i.rest.take 4 |>.mapM hexDigit? with
    | some ds => .ok (ds.foldl (fun n d => n * 16 + d) 0, i.skip 4)
    | none => .error { fault := .invalidEscape, position := i.position.pastBytes 4 i.rest }

/-- The character of an escape `\u`, whose digits `i` begins with. Characters beyond the first
plane are written as two escapes. -/
def readUnicode (i : Input) : Except ReadError (Char × Input) := do
  let (n, i) ← readHex i
  if 0xDC00 ≤ n ∧ n ≤ 0xDFFF then i.failHere .loneSurrogate
  else if n < 0xD800 ∨ 0xDBFF < n then pure (Char.ofNat n, i)
  else match i.rest with
    | [] => i.failHere .endInString
    | '\\' :: _ =>
      let i := i.skip 1
      match i.rest with
      | [] => i.failHere .endInString
      | 'u' :: _ =>
        let (m, i) ← readHex (i.skip 1)
        if m < 0xDC00 ∨ 0xDFFF < m then i.failHere .loneSurrogate
        else pure (Char.ofNat ((n - 0xD800) * 0x400 + (m - 0xDC00) + 0x10000), i)
      | _ => i.failNext .endOfHexEscape
    | _ => i.failNext .endOfHexEscape

/-- The character of an escape, whose backslash has been read. -/
def readEscape (i : Input) : Except ReadError (Char × Input) :=
  match i.rest with
  | [] => i.failHere .endInString
  | '"' :: _ => .ok ('"', i.skip 1)
  | '\\' :: _ => .ok ('\\', i.skip 1)
  | '/' :: _ => .ok ('/', i.skip 1)
  | 'b' :: _ => .ok ('\x08', i.skip 1)
  | 'f' :: _ => .ok ('\x0c', i.skip 1)
  | 'n' :: _ => .ok ('\n', i.skip 1)
  | 'r' :: _ => .ok ('\r', i.skip 1)
  | 't' :: _ => .ok ('\t', i.skip 1)
  | 'u' :: _ => readUnicode (i.skip 1)
  | _ => i.failNext .invalidEscape

/-- The characters of a string, whose opening quote has been read, through the closing quote. The
characters read so far stand in `acc`, the last one first. -/
def readChars : Nat → List Char → Input → Except ReadError (String × Input)
  | 0, _, i => i.failHere .endInString
  | fuel + 1, acc, i =>
    match i.rest with
    | [] => i.failHere .endInString
    | '"' :: _ => .ok (String.ofList acc.reverse, i.skip 1)
    | '\\' :: _ => do
      let (c, i) ← readEscape (i.skip 1)
      readChars fuel (c :: acc) i
    | c :: _ =>
      if c.toNat < 0x20 then i.failNext .controlCharacter
      else readChars fuel (c :: acc) (i.skip 1)

/-- A string, whose opening quote has been read. -/
def readString (i : Input) : Except ReadError (String × Input) :=
  readChars (i.rest.length + 1) [] i

/-! ## Values -/

/-- A word such as `null`, whose first letter has been read. -/
def readWord : List Char → Input → Except ReadError Input
  | [], i => .ok i
  | c :: cs, i =>
    match i.rest with
    | [] => i.failHere .endInValue
    | d :: _ => if c = d then readWord cs (i.skip 1) else i.failNext .expectedWord

mutual

/-- A value, which may hold `depth - 1` levels of arrays and objects. -/
def readValue : Nat → Nat → Input → Except ReadError (Json × Input)
  | 0, _, i => i.failHere .endInValue
  | fuel + 1, depth, i =>
    let i := i.skipBlanks
    match i.rest with
    | [] => i.failNext .endInValue
    | 'n' :: _ => return (.null, ← readWord ['u', 'l', 'l'] (i.skip 1))
    | 't' :: _ => return (.bool true, ← readWord ['r', 'u', 'e'] (i.skip 1))
    | 'f' :: _ => return (.bool false, ← readWord ['a', 'l', 's', 'e'] (i.skip 1))
    | '-' :: _ => do
      let (n, i) ← readNumber true (i.skip 1)
      return (.num n, i)
    | '"' :: _ => do
      let (s, i) ← readString (i.skip 1)
      return (.str s, i)
    | '[' :: _ =>
      if depth ≤ 1 then i.failNext .tooDeep
      else do
        let (items, i) ← readItems fuel (depth - 1) 0 (i.skip 1)
        return (.arr items, i)
    | '\x7b' :: _ =>
      if depth ≤ 1 then i.failNext .tooDeep
      else do
        let (members, i) ← readMembers fuel (depth - 1) true [] (i.skip 1)
        return (.obj members, i)
    | c :: _ =>
      if c.isDigit then do
        let (n, i) ← readNumber false i
        return (.num n, i)
      else i.failNext .expectedValue

/-- The items of an array from number `index` on, through the closing bracket. -/
def readItems : Nat → Nat → Nat → Input → Except ReadError (List Json × Input)
  | 0, _, _, i => i.failHere .endInList
  | fuel + 1, depth, index, i =>
    let i := i.skipBlanks
    match i.rest with
    | [] => inside (.item index) (i.failNext .endInList)
    | ']' :: _ => .ok ([], i.skip 1)
    | c :: _ =>
      if index = 0 then readItem fuel depth index i
      else if c = ',' then
        let i := (i.skip 1).skipBlanks
        match i.rest with
        | [] => inside (.item index) (i.failNext .endInValue)
        | ']' :: _ => inside (.item index) (i.failNext .trailingComma)
        | _ => readItem fuel depth index i
      else inside (.item index) (i.failNext .expectedListEnd)

/-- Item number `index` of an array, and the items behind it. -/
def readItem : Nat → Nat → Nat → Input → Except ReadError (List Json × Input)
  | 0, _, _, i => i.failHere .endInList
  | fuel + 1, depth, index, i => do
    let (v, i) ← inside (.item index) (readValue fuel depth i)
    let (rest, i) ← readItems fuel depth (index + 1) i
    return (v :: rest, i)

/-- The members of an object through the closing brace, added to those read before. -/
def readMembers : Nat → Nat → Bool → Members → Input → Except ReadError (Members × Input)
  | 0, _, _, _, i => i.failHere .endInObject
  | fuel + 1, depth, first, acc, i =>
    let i := i.skipBlanks
    match i.rest with
    | [] => inside .unknown (i.failNext .endInObject)
    | '\x7d' :: _ => .ok (acc, i.skip 1)
    | c :: _ =>
      if first then
        if c = '"' then readMember fuel depth acc i
        else inside .unknown (i.failNext .keyNotString)
      else if c = ',' then
        let i := (i.skip 1).skipBlanks
        match i.rest with
        | [] => inside .unknown (i.failNext .endInValue)
        | '"' :: _ => readMember fuel depth acc i
        | '\x7d' :: _ => inside .unknown (i.failNext .trailingComma)
        | _ => inside .unknown (i.failNext .keyNotString)
      else inside .unknown (i.failNext .expectedObjectEnd)

/-- One member of an object, and the members behind it. -/
def readMember : Nat → Nat → Members → Input → Except ReadError (Members × Input)
  | 0, _, _, i => i.failHere .endInObject
  | fuel + 1, depth, acc, i => do
    let (key, i) ← inside .unknown (readString (i.skip 1))
    let i := i.skipBlanks
    match i.rest with
    | [] => inside (.member key) (i.failNext .endInObject)
    | ':' :: _ =>
      let (v, i) ← inside (.member key) (readValue fuel depth (i.skip 1))
      readMembers fuel depth false (acc.insert key v) i
    | _ => inside (.member key) (i.failNext .expectedColon)

end

/-- Read a document, which is one value of at most 127 levels between blanks. -/
def read (s : String) : Except ReadError Json := do
  let cs := s.toList
  let (v, i) ← readValue (3 * cs.length + 3) 128 ⟨cs, {}⟩
  let i := i.skipBlanks
  if i.rest.isEmpty then pure v else i.failNext .trailingCharacters

end Mailroom.Json
