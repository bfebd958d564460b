import Mailroom.Json.Text
import Mailroom.Net.Uri
import Mailroom.Text.Case

/-!
# Requests and responses

What is asked of the service over HTTP and what it answers. The name of a header is written in small
letters.
-/

namespace Mailroom.Http

/-- Headers by name. A name may occur more than once in a request. -/
abbrev Headers := List (String × String)

/-- A request: its method, its path as it was sent, its headers, its body, and the address with the
port that it came from, if they are known. -/
structure Request where
  method : String
  path : String
  headers : Headers := []
  body : String := ""
  peer : Option String := none
deriving DecidableEq, Repr

/-- A response. -/
structure Response where
  status : Nat
  headers : Headers := []
  body : String := ""
deriving DecidableEq, Repr

/-- A character that a header can show: a tab, or one of ASCII from the space to the tilde. -/
def isVisible (c : Char) : Bool := c = '\t' || (0x20 ≤ c.toNat && c.toNat < 0x7F)

/-- A character that a header can hold: a tab, or one that is no control character of ASCII. -/
def isHeaderChar (c : Char) : Bool := c = '\t' || (0x20 ≤ c.toNat && c.toNat != 0x7F)

namespace Request

/-- The path in a target, which ends before the query. It may stand behind a scheme and an
authority. -/
def pathOf (target : String) : String :=
  let shown := target.toList.takeWhile fun c => c != '?' && c != '#'
  match Net.Uri.splitScheme shown with
  | some (_, rest) =>
    let path := rest.dropWhile (· != '/')
    if path = [] then "/" else String.ofList path
  | none => String.ofList shown

/-- The first value of a header. -/
def header? (r : Request) (name : String) : Option String := r.headers.lookup name

/-- The first value of a header, if all of it can be shown. -/
def visible? (r : Request) (name : String) : Option String :=
  (r.header? name).filter fun v => v.toList.all isVisible

end Request

namespace Response

/-- A response with a header more. A header of the same name gives way. -/
def withHeader (name value : String) (r : Response) : Response :=
  { r with headers := r.headers.filter (·.1 != name) ++ [(name, value)] }

/-- A response with some headers more. -/
def withHeaders (headers : Headers) (r : Response) : Response :=
  headers.foldl (fun r (name, value) => r.withHeader name value) r

/-- A response that holds a JSON value. -/
def ofJson (status : Nat) (v : Json) : Response :=
  { status, headers := [("content-type", "application/json")], body := v.compact }

/-- A response that holds a text. -/
def ofText (status : Nat) (text : String) : Response :=
  { status, headers := [("content-type", "text/plain; charset=utf-8")], body := text }

end Response

/-- The phrase that goes with a status. -/
def phraseOf : Nat → String
  | 200 => "OK"
  | 400 => "Bad Request"
  | 401 => "Unauthorized"
  | 404 => "Not Found"
  | 405 => "Method Not Allowed"
  | 413 => "Payload Too Large"
  | 429 => "Too Many Requests"
  | 500 => "Internal Server Error"
  | 501 => "Not Implemented"
  | _ => ""

end Mailroom.Http
