import Mailroom.Files.Tree
import Mailroom.Json.Text
import Mailroom.Stock.Arabic
import Mailroom.Stock.English
import Mailroom.Stock.Hebrew
import Mailroom.Stock.Messages
import Mailroom.Stock.Parts
import Mailroom.Stock.Turkish

/-!
# What the service is shipped with

The tree of files that comes with the service: the documents of the four locales under `locales`,
and the message templates with their parts under `templates`.
-/

namespace Mailroom.Stock

/-- The shipped files with their contents. -/
def contents : List (String × String) := [
  ("locales/tr.json", turkish.compact),
  ("locales/en.json", english.compact),
  ("locales/ar.json", arabic.compact),
  ("locales/he.json", hebrew.compact),
  ("templates/flight-details.hbs", flightDetails),
  ("templates/flight-ticket.hbs", flightTicket),
  ("templates/hotel-reservation.hbs", hotelReservation),
  ("templates/package-reservation.hbs", packageReservation),
  ("templates/password-reset.hbs", passwordReset),
  ("templates/reservation-confirmation.hbs", reservationConfirmation),
  ("templates/transfer-reservation.hbs", transferReservation),
  ("templates/welcome.hbs", welcome),
  ("templates/partials/header.hbs", header),
  ("templates/partials/payment.hbs", payment),
  ("templates/partials/footer.hbs", footer)]

/-- The shipped files as a tree whose root is shown under the given name. -/
def tree (root : String) : Files.Tree :=
  contents.foldl (fun t (path, text) => t.write path text.toUTF8) { root }

end Mailroom.Stock
