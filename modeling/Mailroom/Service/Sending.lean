import Mailroom.Http.Message
import Mailroom.Json.Reader
import Mailroom.Service.Basic
import Mailroom.Service.Submission

/-!
# Sending on request

From the body of a request to a message on its way: the body has to be a JSON document of limited
size that holds a submission without problems for a template that is there.
-/

namespace Mailroom.Service

open Http (Request Response)

/-- The number that a text stands for: digits, with a plus sign in front or without one. -/
def countOf? (text : String) : Option Nat :=
  let digits := match text.toList with
    | '+' :: cs => cs
    | cs => cs
  if digits.isEmpty then none else digits.foldl (fun n? c => do
    let n := 10 * (← n?) + (← Net.Ip.decimal? c)
    if n < Nat.pow 2 64 then some n else none) (some 0)

/-- The length that a request declares for its body. -/
def declaredLength? (r : Request) : Option Nat := (r.visible? "content-length").bind countOf?

/-- The number of bytes that are read of any body. -/
def readLimit : Nat := 2 * 1024 * 1024

/-- The number of bytes that are read of the body of a request. -/
def bodyBound (limit : Nat) (r : Request) : Nat :=
  min (min limit ((declaredLength? r).getD limit)) readLimit

/-- Whether a request says that its body is JSON. -/
def declaresJson (r : Request) : Bool :=
  ((r.visible? "content-type").bind fun t => (Mail.MediaType.ofText t).toOption).any (·.isJson)

/-- The JSON document in the body of a request, or what is wrong with it. -/
def documentOf (limit : Nat) (r : Request) : Except String Json :=
  if !declaresJson r then .error "Expected request with `Content-Type: application/json`"
  else if bodyBound limit r < r.body.utf8ByteSize then
    .error "Failed to buffer the request body: length limit exceeded"
  else (Json.read r.body).mapError fun e =>
    "Failed to parse the request body as JSON: " ++ e.placedMessage

/-- The submission in the body of a request. -/
def submissionOf (limit : Nat) (r : Request) : Except (List Submission.Problem) Submission :=
  match documentOf limit r with
  | .error reason => .error [⟨[], reason⟩]
  | .ok v => Submission.ofJson v

/-- A failure for some problems. -/
def refusal (problems : List Submission.Problem) : Failure :=
  .ofDetails (.arr (problems.map Submission.Problem.toJson))

/-- The submission in the body of a request, or a failure. -/
def submitted (r : Request) : Serving Submission := do
  match submissionOf (← get).settings.server.bodyLimit r with
  | .ok submission => return submission
  | .error problems => throw (refusal problems)

/-- Send the message that a request asks for. -/
def sendFor (fresh : Mail.Fresh) (key : String) (r : Request) : Serving String := do
  let submission ← submitted r
  let s ← get
  unless s.renderer.library.has s.files key do
    throw (.notImplemented s!"Template not configured: {key}")
  let html ← page key submission.locale submission.payload
  let subject := submission.ownSubject?.getD (s.renderer.subject submission.locale key)
  let message := submission.toMessage subject html
  let id ← dispatch fresh key submission.locale message
  Journal.log {
    level := .info
    target := "ara_email_service::api::email"
    message := "Email sent successfully"
    fields := [("locale", .plain submission.locale), ("recipients", .int message.recipients.length),
      ("message_id", .plain id), ("transport", .quoted (← get).transport.name)] }
  return id

/-- The response to a request whose message is on its way. -/
def sentResponse (id : String) : Response :=
  .ofJson 200 <| .ofMembers [("success", .bool true), ("message", .str "Email sent successfully"),
    ("data", .ofMembers [("message_id", .str id)])]

/-- The response after the templates were read again. -/
def clearedResponse (parts : Nat) : Response :=
  .ofJson 200 <| .ofMembers [("success", .bool true),
    ("data", .ofMembers [("partials", Json.ofNat parts)])]

end Mailroom.Service
