import Mailroom.Json.Basic

/-!
# The English document

The layout, the subject lines and the phrases that messages in English are made of.
-/

namespace Mailroom.Stock

/-- The document of the English locale. -/
def english : Json :=
  .obj [
    ("common", .obj [
      ("automated", .str "This is an automated message, please do not reply directly."),
      ("date", .str "Date"),
      ("greeting", .str "Dear \x7b\x7bname\x7d\x7d,"),
      ("guests", .str "Guests"),
      ("notes", .str "Notes"),
      ("questions",
        .str "If you have any questions, reply to this email or contact our support team."),
      ("regards", .str "Kind regards,"),
      ("reservationNumber", .str "Reservation number"),
      ("rights", .str "All rights reserved."),
      ("team", .str "The Ara Travel Team"),
      ("total", .str "Total")]),
    ("flight", .obj [
      ("arrival", .str "Arrival"),
      ("baggage", .str "Baggage"),
      ("checkin", .str "Online check-in opens 24 hours before departure."),
      ("departure", .str "Departure"),
      ("detailsTitle", .str "Flight details"),
      ("flightNumber", .str "Flight"),
      ("passengers", .str "Passengers"),
      ("pnr", .str "Booking reference (PNR)"),
      ("ticketNumber", .str "Ticket number"),
      ("title", .str "Your flight is booked")]),
    ("hotel", .obj [
      ("address", .str "Address"),
      ("board", .str "Board"),
      ("cancellationPolicy", .str "Cancellation policy"),
      ("checkIn", .str "Check-in"),
      ("checkOut", .str "Check-out"),
      ("confirmationNumber", .str "Confirmation number"),
      ("freeCancellation", .str "Free cancellation until \x7b\x7bdate\x7d\x7d"),
      ("guest", .str "Guest"),
      ("phone", .str "Phone"),
      ("pinCode", .str "PIN code"),
      ("rooms", .str "Rooms"),
      ("stay", .str "Stay"),
      ("title", .str "Your stay is confirmed")]),
    ("meta", .obj [
      ("align", .str "left"),
      ("direction", .str "ltr"),
      ("fontFamily", .str "Segoe UI, Tahoma, Geneva, Verdana, sans-serif")]),
    ("package", .obj [
      ("dates", .str "Travel dates"),
      ("flight", .str "Flight"),
      ("hotel", .str "Hotel"),
      ("includes", .str "Package includes"),
      ("title", .str "Your holiday package is booked"),
      ("transfer", .str "Transfer")]),
    ("passwordReset", .obj [
      ("body",
        .str "We received a request to reset the password of your account. Use the button below to choose a new one."),
      ("cta", .str "Reset password"),
      ("expires", .str "This link expires in \x7b\x7bminutes\x7d\x7d minutes."),
      ("ignore", .str "If you did not request a reset, you can safely ignore this email."),
      ("title", .str "Password reset request")]),
    ("payment", .obj [
      ("amount", .str "Amount paid"),
      ("card", .str "Card"),
      ("cardEnding", .str "ending in \x7b\x7blast4\x7d\x7d"),
      ("cardHolder", .str "Card holder"),
      ("date", .str "Payment date"),
      ("status", .str "Status"),
      ("title", .str "Payment details")]),
    ("reservation", .obj [
      ("dates", .str "Dates"),
      ("intro", .str "Thank you for booking with us. Your reservation details are below."),
      ("service", .str "Service"),
      ("title", .str "Your reservation is confirmed")]),
    ("salutation", .obj [
      ("CHD", .str "Child"),
      ("MR", .str "Mr."),
      ("MRS", .str "Mrs.")]),
    ("subjects", .obj [
      ("flightDetails", .str "Your flight details"),
      ("flightTicket", .str "Your flight ticket"),
      ("hotelReservation", .str "Your hotel reservation"),
      ("packageReservation", .str "Your holiday package"),
      ("passwordReset", .str "Reset your password"),
      ("reservationConfirmation", .str "Reservation confirmed"),
      ("transferReservation", .str "Your transfer booking"),
      ("welcome", .str "Welcome to Ara Travel")]),
    ("transfer", .obj [
      ("driverNote", .str "Your driver will wait for you with a name sign."),
      ("dropoff", .str "Drop-off"),
      ("passengers", .str "Passengers"),
      ("pickup", .str "Pick-up"),
      ("pickupTime", .str "Pick-up time"),
      ("title", .str "Your transfer is booked"),
      ("vehicle", .str "Vehicle")]),
    ("welcome", .obj [
      ("body",
        .str "Your account has been created. You can now book flights, hotels and transfers in a few clicks."),
      ("cta", .str "Go to my account"),
      ("title", .str "Welcome aboard!")])]

end Mailroom.Stock
