import Mailroom.Text.Case

/-!
# Media types

The kind of a content, as in `text/html` or `application/vnd.api+json; charset=utf-8`.
-/

namespace Mailroom.Mail

/-- Why a text is no media type. -/
inductive MediaTypeError where
  | slashMissing | equalsMissing | quoteMissing
  | misplaced (c : Char) (position : Nat)
deriving DecidableEq, Repr

/-- A number in capital hexadecimal digits. -/
def capitalHex (n : Nat) : String := String.ofList ((Nat.toDigits 16 n).map Char.toUpper)

/-- The wording of a refusal. -/
def MediaTypeError.message : MediaTypeError → String
  | .slashMissing => "a slash (/) was missing between the type and subtype"
  | .equalsMissing => "an equals sign (=) was missing between a parameter and its value"
  | .quoteMissing => "a quote (\") was missing from a parameter value"
  | .misplaced c position =>
    let byte := ((String.utf8EncodeChar c).headD 0).toNat
    s!"an invalid token was encountered, {capitalHex byte} at position {position}"

/-- A media type: what is in front of the slash, what is behind it up to the last plus sign, what
follows that sign, and the text of the whole. -/
structure MediaType where
  kind : String
  subkind : String
  suffix : Option String := none
  text : String
deriving DecidableEq, Repr

namespace MediaType

/-- A character of the names in a media type. -/
def isToken (c : Char) : Bool := c.isAlphanum || "!#$%&'*+-.^_\x60|~".toList.contains c

/-- Where the reading of parameters stands. The truth value says whether nothing of a part has been
read. -/
inductive Stage where
  | name (isEmpty : Bool)
  | value (isEmpty : Bool)
  | quoted (isEmpty : Bool)
  | behind

/-- What is wrong with the parameters, if anything is. -/
def parameterError? : Stage → Nat → List Char → Option MediaTypeError
  | .name isEmpty, _, [] => if isEmpty then none else some .equalsMissing
  | .value _, _, [] => none
  | .quoted _, _, [] => some .quoteMissing
  | .behind, _, [] => none
  | .name isEmpty, n, c :: cs =>
    if c = ' ' ∧ isEmpty then parameterError? (.name true) (n + 1) cs
    else if isToken c then parameterError? (.name false) (n + 1) cs
    else if c = '=' ∧ !isEmpty then parameterError? (.value true) (n + 1) cs
    else some (.misplaced c n)
  | .value isEmpty, n, c :: cs =>
    if c = '"' ∧ isEmpty then parameterError? (.quoted true) (n + 1) cs
    else if isToken c then parameterError? (.value false) (n + 1) cs
    else if c = ';' ∧ !isEmpty then parameterError? (.name true) (n + 1) cs
    else some (.misplaced c n)
  | .quoted isEmpty, n, c :: cs =>
    if c = '"' ∧ !isEmpty then parameterError? .behind (n + 1) cs
    else if 31 < c.toNat ∧ c.toNat ≠ 127 then parameterError? (.quoted false) (n + 1) cs
    else some (.misplaced c n)
  | .behind, n, c :: cs =>
    if c = ';' then parameterError? (.name true) (n + 1) cs
    else if c = ' ' then parameterError? .behind (n + 1) cs
    else some (.misplaced c n)

/-- The media type with the given names and parameters. -/
def assemble (kind name parameters : List Char) : MediaType :=
  let lower (cs : List Char) := Text.asciiLower (String.ofList cs)
  let shown := kind ++ '/' :: name
  let (behind, before) := (name.reverse.takeWhile (· != '+'), name.reverse.dropWhile (· != '+'))
  let text := lower shown ++
    (if parameters.all (· == ' ') then "" else ";" ++ String.ofList parameters)
  match before with
  | _ :: front@(_ :: _) =>
    { kind := lower kind, subkind := lower front.reverse, suffix := some (lower behind.reverse)
      text }
  | _ => { kind := lower kind, subkind := lower name, text }

/-- The media type that a text stands for. -/
def ofText (s : String) : Except MediaTypeError MediaType :=
  let cs := s.toList
  let kind := cs.takeWhile isToken
  match cs.dropWhile isToken with
  | [] => .error .slashMissing
  | c :: rest =>
    if c ≠ '/' ∨ kind.isEmpty then .error (.misplaced c kind.length)
    else
      let name := rest.takeWhile isToken
      let place := kind.length + 1 + name.length
      match rest.dropWhile isToken with
      | [] => .ok (assemble kind name [])
      | c :: parameters =>
        if c ≠ ';' ∨ name.isEmpty then .error (.misplaced c place)
        else match parameterError? (.name true) (place + 1) parameters with
          | some e => .error e
          | none => .ok (assemble kind name parameters)

/-- Whether a content of this type is a JSON document. -/
def isJson (t : MediaType) : Bool :=
  t.kind == "application" && (t.subkind == "json" || t.suffix == some "json")

end MediaType

end Mailroom.Mail
