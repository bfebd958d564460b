import Mailroom.Journal
import Mailroom.Payload.Value

/-!
# Payment details

Callers send payment details under many names, at the top of the payload or in an object named
`payment`. A detail is taken from the first of its names that holds something, and is written back
under the one name that templates know. The logo of the card is kept only if it points to an image
that is sent along or lies on the same site.
-/

namespace Mailroom.Payload

/-- The details of a payment. -/
inductive Detail where
  | date | status | brand | lastDigits | holder | currency | total | logo
deriving DecidableEq, Repr

namespace Detail

/-- Every detail, in the order in which they are written back. -/
def all : List Detail := [.date, .status, .brand, .lastDigits, .holder, .currency, .total, .logo]

/-- The name that templates know. -/
def name : Detail → String
  | .date => "paymentDate"
  | .status => "paymentStatus"
  | .brand => "cardBrand"
  | .lastDigits => "cardLast4"
  | .holder => "cardHolder"
  | .currency => "currency"
  | .total => "totalAmount"
  | .logo => "cardLogoUrl"

/-- The names at the top of the payload, the most trusted first. -/
def aliases : Detail → List String
  | .date => ["paymentDate", "payment_date", "paidAt", "paymentDateTime"]
  | .status => ["paymentStatus", "payment_status", "paymentState"]
  | .brand => ["cardBrand", "card_brand", "cardType", "cardScheme"]
  | .lastDigits => ["cardLast4", "cardLastFour", "card_last4", "lastFourDigits", "last4"]
  | .holder => ["cardHolder", "cardHolderName", "cardholderName", "card_holder"]
  | .currency => ["currency", "currencyCode", "currency_code"]
  | .total => ["totalAmount", "total_amount", "totalPrice", "amount"]
  | .logo => ["cardLogoUrl", "cardLogo", "cardBrandLogo", "cardBrandLogoUrl"]

/-- The names in the object `payment`, the most trusted first. -/
def nestedAliases : Detail → List String
  | .date => ["paymentDate", "date", "paidAt"]
  | .status => ["paymentStatus", "status"]
  | .brand => ["cardBrand", "brand", "cardType"]
  | .lastDigits => ["cardLast4", "cardLastFour", "last4", "lastFourDigits"]
  | .holder => ["cardHolder", "cardHolderName", "holderName"]
  | .currency => ["currency", "currencyCode"]
  | .total => ["totalAmount", "amount", "total"]
  | .logo => ["cardLogoUrl", "cardLogo", "logoUrl"]

/-- What stands in, at the top of the payload, for a detail that has no value under any name. -/
def standIns : Detail → List String
  | .holder => ["customerName"]
  | .total => ["approxAmount", "approximateAmount"]
  | _ => []

end Detail

/-- The object in a payload that holds payment details. -/
def nestedPayment (payload : Json.Members) : Json.Members :=
  ((payload.get? "payment").bind Json.members?).getD []

/-- The first of several members that says something. -/
def firstUnder (members : Json.Members) (names : List String) : Option Json :=
  names.findSome? fun name => (members.get? name).filter fun v => !isEmpty v

/-- The value of a detail. -/
def detail? (payload : Json.Members) (d : Detail) : Option Json :=
  firstUnder payload d.aliases
    <|> firstUnder (nestedPayment payload) d.nestedAliases
    <|> firstUnder payload d.standIns

/-- Whether a logo is an image that is sent along or lies on the same site. References that begin
with two slashes, or a slash and a backslash, lead elsewhere. -/
def isSafeLogo : Json → Bool
  | .str s =>
    match s.toList with
    | '/' :: '/' :: _ => false
    | '/' :: '\\' :: _ => false
    | '/' :: _ => true
    | cs => ['c', 'i', 'd', ':'].isPrefixOf cs || ['d', 'a', 't', 'a', ':'].isPrefixOf cs
  | _ => false

/-- Write the details that have a value back under the names that templates know. -/
def writeBack (payload : Json.Members) (details : List Detail) : Json.Members :=
  details.foldl (fun out d =>
    match detail? payload d with
    | some v => out.insert d.name v
    | none => out) payload

/-- Remove several members. -/
def eraseAll (members : Json.Members) (names : List String) : Json.Members :=
  members.filter fun m => !names.contains m.1

/-- Remove the logo under every name. -/
def stripLogo (payload : Json.Members) : Json.Members :=
  (eraseAll payload Detail.logo.aliases).map fun (k, v) =>
    match v with
    | .obj ms =>
      if k = "payment" then (k, .obj (eraseAll ms Detail.logo.nestedAliases)) else (k, v)
    | _ => (k, v)

/-- The payload as it would be without a warning about its logo: all details but the logo under
their names, and the logo either under its name or removed. -/
def reconcile (payload : Json.Members) : Json.Members :=
  let plain := writeBack payload (Detail.all.erase .logo)
  match detail? payload .logo with
  | none => plain
  | some logo => if isSafeLogo logo then plain.insert Detail.logo.name logo else stripLogo plain

/-- Bring a payload into the form that templates know. A logo that leads elsewhere is logged. -/
def normalize (payload : Json.Members) : Journaled Json.Members := do
  match detail? payload .logo with
  | some logo =>
    if !isSafeLogo logo then
      Journal.log {
        level := .warn
        target := "ara_email_service::normalize"
        message := "Dropping card logo with unsupported reference"
        fields := [("logo", .plain logo.compact)] }
  | none => pure ()
  return reconcile payload

end Mailroom.Payload
