import Mailroom.Locale.Store

/-!
# Subject lines

The subject of a message that does not bring its own: the line that the locale documents hold for
its kind of message.
-/

namespace Mailroom.Locale

/-- The kinds of messages with a subject line, and the name of the line in the documents. -/
def subjectKeys : List (String × String) := [
  ("welcome", "welcome"),
  ("password-reset", "passwordReset"),
  ("flight-ticket", "flightTicket"),
  ("flight-details", "flightDetails"),
  ("hotel-reservation", "hotelReservation"),
  ("reservation-confirmation", "reservationConfirmation"),
  ("package-reservation", "packageReservation"),
  ("transfer-reservation", "transferReservation")]

/-- The name of the subject line of a template. -/
def subjectKey? (template : String) : Option String := subjectKeys.lookup template

/-- The subject of a message made from a template: the first line along the chain of locales that
is not empty. Where there is none, the name of the template stands in. -/
def Store.subject (s : Store) (locale template : String) : String :=
  match subjectKey? template with
  | none => template
  | some key => ((chain locale).findSome? fun l => (s.bundle l).subject key).getD template

end Mailroom.Locale
