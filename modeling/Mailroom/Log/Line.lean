import Mailroom.Calendar.Instant
import Mailroom.Json.Text
import Mailroom.Log.Event
import Mailroom.Number.Plain
import Mailroom.Text.Quoted

/-!
# Lines of the log

An entry is written as a line of text or as a JSON object. A field of the name `message` goes for
the message of the event: a text shows it without its name, and an object holds the later of the
two.
-/

namespace Mailroom.Log

/-- The text of a value. -/
def Value.text : Value → String
  | .plain s => s
  | .quoted s => Text.quoted s
  | .bool b => toString b
  | .int i => toString i
  | .float x => String.ofList (Number.plainText x)

/-- A value as a JSON value. -/
def Value.toJson : Value → Json
  | .plain s | .quoted s => .str s
  | .bool b => .bool b
  | .int i => Json.ofInt i
  | .float x => .num (.float x)

/-- The name of the field that holds the message. -/
def messageField : String := "message"

/-- The text of a field. -/
def fieldText (field : String × Value) : String :=
  if field.1 = messageField then field.2.text else field.1 ++ "=" ++ field.2.text

/-- The text of some fields. -/
def Fields.text (fs : Fields) : String := " ".intercalate (fs.map fieldText)

/-- Fields as the members of a JSON object. -/
def Fields.toMembers (fs : Fields) : List (String × Json) := fs.map fun (k, v) => (k, v.toJson)

/-- The text of a span. -/
def Span.text (s : Span) : String :=
  s.name ++ (if s.fields.isEmpty then "" else "\x7b" ++ Fields.text s.fields ++ "\x7d") ++ ":"

/-- A span as a JSON object. -/
def Span.toJson (s : Span) : Json :=
  .ofMembers (Fields.toMembers s.fields ++ [("name", .str s.name)])

namespace Entry

/-- The fields of the event, its message in front of them. -/
def allFields (e : Entry) : Fields := (messageField, .plain e.event.message) :: e.event.fields

/-- The text of an entry behind its time. -/
def untimedText (e : Entry) : String :=
  let level := e.event.level.name
  let spans := if e.spans.isEmpty then "" else String.join (e.spans.map Span.text) ++ " "
  " " ++ (if level.length < 5 then " " else "") ++ level ++ " " ++ spans ++ e.event.target ++ ": "
    ++ Fields.text e.allFields

/-- The text of an entry. -/
def text (e : Entry) : String := Calendar.microStamp e.time ++ e.untimedText

/-- An entry as a JSON object. -/
def toJson (e : Entry) : Json :=
  .ofMembers <|
    [("timestamp", .str (Calendar.microStamp e.time)), ("level", .str e.event.level.name),
      ("fields", .ofMembers (Fields.toMembers e.allFields)), ("target", .str e.event.target)]
    ++ (match e.spans.getLast? with
      | some s => [("span", s.toJson), ("spans", .arr (e.spans.map Span.toJson))]
      | none => [])

end Entry

end Mailroom.Log
