import Mailroom.Stock.Page

/-!
# Message templates

The templates of the kinds of messages that are sent out of the box.
-/

namespace Mailroom.Stock

/-- The details of a flight. -/
def flightDetails : String := page [
  r#"⟪> header title=(t "subjects.flightDetails")⟫"#,
  r#"<h1 style="margin: 0 0 16px; font-size: 22px; color: #1a4d8f;">⟪t "flight.detailsTitle"⟫</h1>"#,
  r#"<p style="margin: 0 0 16px;">⟪t "common.greeting" name=(or customerName name)⟫</p>"#,
  r#"⟪#if pnr⟫<p style="margin: 0 0 24px;"><strong>⟪t "flight.pnr"⟫:</strong> ⟪pnr⟫</p>⟪/if⟫"#,
  r#"⟪#each flights⟫"#,
  r#"<table role="presentation" width="100%" cellpadding="6" cellspacing="0" style="margin-bottom: 16px; border: 1px solid #e5e9ef; border-radius: 6px; font-size: 14px;">"#,
  r#"  <tr>"#,
  r#"    <td colspan="2" style="background-color: #f0f4fa; font-weight: bold; text-align: ⟪@root.__meta.align⟫;">⟪t "flight.flightNumber"⟫ ⟪flightNumber⟫⟪#if airline⟫ &middot; ⟪airline⟫⟪/if⟫</td>"#,
  r#"  </tr>"#,
  r#"  <tr>"#,
  r#"    <td style="text-align: ⟪@root.__meta.align⟫;"><strong>⟪t "flight.departure"⟫</strong><br>⟪departureAirport⟫<br>⟪formatDate departureDate⟫ ⟪departureTime⟫</td>"#,
  r#"    <td style="text-align: ⟪@root.__meta.oppositeAlign⟫;"><strong>⟪t "flight.arrival"⟫</strong><br>⟪arrivalAirport⟫<br>⟪formatDate arrivalDate⟫ ⟪arrivalTime⟫</td>"#,
  r#"  </tr>"#,
  r#"  ⟪#if baggage⟫"#,
  r#"  <tr>"#,
  r#"    <td colspan="2" style="color: #52606d; text-align: ⟪@root.__meta.align⟫;">⟪t "flight.baggage"⟫: ⟪baggage⟫</td>"#,
  r#"  </tr>"#,
  r#"  ⟪/if⟫"#,
  r#"</table>"#,
  r#"⟪/each⟫"#,
  r#"⟪#if passengers⟫"#,
  r#"<h3 style="margin: 24px 0 8px; font-size: 16px; color: #1a4d8f;">⟪t "flight.passengers"⟫</h3>"#,
  r#"<ul style="margin: 0 0 16px; padding-⟪__meta.align⟫: 20px;">"#,
  r#"  ⟪#each passengers⟫"#,
  r#"  <li>⟪t (concat "salutation." (salutation this))⟫ ⟪firstName⟫ ⟪lastName⟫</li>"#,
  r#"  ⟪/each⟫"#,
  r#"</ul>"#,
  r#"⟪/if⟫"#,
  r#"<p style="margin: 24px 0 16px; color: #52606d;">⟪t "flight.checkin"⟫</p>"#,
  r#"<p style="margin: 0;">⟪t "common.regards"⟫<br>⟪t "common.team"⟫</p>"#,
  r#"⟪> footer⟫"#]

/-- The ticket of a flight. -/
def flightTicket : String := page [
  r#"⟪> header title=(t "subjects.flightTicket")⟫"#,
  r#"<h1 style="margin: 0 0 16px; font-size: 22px; color: #1a4d8f;">⟪t "flight.title"⟫</h1>"#,
  r#"<p style="margin: 0 0 16px;">⟪t "common.greeting" name=(or customerName name)⟫</p>"#,
  r#"<p style="margin: 0 0 24px;"><strong>⟪t "flight.pnr"⟫:</strong> ⟪safe pnr "pnr"⟫</p>"#,
  r#"⟪#each flights⟫"#,
  r#"<table role="presentation" width="100%" cellpadding="6" cellspacing="0" style="margin-bottom: 16px; border: 1px solid #e5e9ef; border-radius: 6px; font-size: 14px;">"#,
  r#"  <tr>"#,
  r#"    <td colspan="2" style="background-color: #f0f4fa; font-weight: bold; text-align: ⟪@root.__meta.align⟫;">⟪t "flight.flightNumber"⟫ ⟪flightNumber⟫ &middot; ⟪airline⟫</td>"#,
  r#"  </tr>"#,
  r#"  <tr>"#,
  r#"    <td style="text-align: ⟪@root.__meta.align⟫;"><strong>⟪t "flight.departure"⟫</strong><br>⟪departureAirport⟫<br>⟪formatDate departureDate⟫ ⟪departureTime⟫</td>"#,
  r#"    <td style="text-align: ⟪@root.__meta.oppositeAlign⟫;"><strong>⟪t "flight.arrival"⟫</strong><br>⟪arrivalAirport⟫<br>⟪formatDate arrivalDate⟫ ⟪arrivalTime⟫</td>"#,
  r#"  </tr>"#,
  r#"</table>"#,
  r#"⟪/each⟫"#,
  r#"⟪#if passengers⟫"#,
  r#"<h3 style="margin: 24px 0 8px; font-size: 16px; color: #1a4d8f;">⟪t "flight.passengers"⟫</h3>"#,
  r#"<table role="presentation" width="100%" cellpadding="6" cellspacing="0" style="border-collapse: collapse; font-size: 14px;">"#,
  r#"  ⟪#each passengers⟫"#,
  r#"  <tr>"#,
  r#"    <td style="border-bottom: 1px solid #e5e9ef; text-align: ⟪@root.__meta.align⟫;">⟪t (concat "salutation." (salutation this))⟫ ⟪firstName⟫ ⟪lastName⟫</td>"#,
  r#"    <td style="border-bottom: 1px solid #e5e9ef; text-align: ⟪@root.__meta.oppositeAlign⟫;">⟪#if ticketNumber⟫⟪t "flight.ticketNumber"⟫: ⟪ticketNumber⟫⟪/if⟫</td>"#,
  r#"  </tr>"#,
  r#"  ⟪/each⟫"#,
  r#"</table>"#,
  r#"⟪/if⟫"#,
  r#"⟪> payment⟫"#,
  r#"<p style="margin: 24px 0 16px; color: #52606d;">⟪t "flight.checkin"⟫</p>"#,
  r#"<p style="margin: 0;">⟪t "common.regards"⟫<br>⟪t "common.team"⟫</p>"#,
  r#"⟪> footer⟫"#]

/-- A hotel reservation. -/
def hotelReservation : String := page [
  r#"⟪> header title=(t "subjects.hotelReservation")⟫"#,
  r#"<h1 style="margin: 0 0 16px; font-size: 22px; color: #1a4d8f;">⟪t "hotel.title"⟫</h1>"#,
  r#"<p style="margin: 0 0 16px;">⟪t "common.greeting" name=(or customerName name)⟫</p>"#,
  r#"<h2 style="margin: 0 0 8px; font-size: 18px;">⟪hotelName⟫</h2>"#,
  r#"⟪#if hotelAddress⟫<p style="margin: 0 0 4px; color: #52606d;">⟪t "hotel.address"⟫: ⟪hotelAddress⟫</p>⟪/if⟫"#,
  r#"⟪#if hotelPhone⟫<p style="margin: 0 0 16px; color: #52606d;">⟪t "hotel.phone"⟫: ⟪hotelPhone⟫</p>⟪/if⟫"#,
  r#"<table role="presentation" width="100%" cellpadding="6" cellspacing="0" style="border-collapse: collapse; font-size: 14px; margin-bottom: 16px;">"#,
  r#"  ⟪#if (or confirmationNumber reservationNumber)⟫"#,
  r#"  <tr>"#,
  r#"    <td style="color: #52606d; text-align: ⟪__meta.align⟫;">⟪t "hotel.confirmationNumber"⟫</td>"#,
  r#"    <td style="font-weight: bold; text-align: ⟪__meta.oppositeAlign⟫;">⟪or confirmationNumber reservationNumber⟫</td>"#,
  r#"  </tr>"#,
  r#"  ⟪/if⟫"#,
  r#"  ⟪#if pinCode⟫"#,
  r#"  <tr>"#,
  r#"    <td style="color: #52606d; text-align: ⟪__meta.align⟫;">⟪t "hotel.pinCode"⟫</td>"#,
  r#"    <td style="text-align: ⟪__meta.oppositeAlign⟫;">⟪pinCode⟫</td>"#,
  r#"  </tr>"#,
  r#"  ⟪/if⟫"#,
  r#"  ⟪#if stayDates⟫"#,
  r#"  <tr>"#,
  r#"    <td style="color: #52606d; text-align: ⟪__meta.align⟫;">⟪t "hotel.stay"⟫</td>"#,
  r#"    <td style="text-align: ⟪__meta.oppositeAlign⟫;">⟪formatDateRange stayDates⟫</td>"#,
  r#"  </tr>"#,
  r#"  ⟪else⟫"#,
  r#"  <tr>"#,
  r#"    <td style="color: #52606d; text-align: ⟪__meta.align⟫;">⟪t "hotel.checkIn"⟫</td>"#,
  r#"    <td style="text-align: ⟪__meta.oppositeAlign⟫;">⟪formatDate checkInDate⟫</td>"#,
  r#"  </tr>"#,
  r#"  <tr>"#,
  r#"    <td style="color: #52606d; text-align: ⟪__meta.align⟫;">⟪t "hotel.checkOut"⟫</td>"#,
  r#"    <td style="text-align: ⟪__meta.oppositeAlign⟫;">⟪formatDate checkOutDate⟫</td>"#,
  r#"  </tr>"#,
  r#"  ⟪/if⟫"#,
  r#"</table>"#,
  r#"⟪#if rooms⟫"#,
  r#"<h3 style="margin: 24px 0 8px; font-size: 16px; color: #1a4d8f;">⟪t "hotel.rooms"⟫</h3>"#,
  r#"⟪#each rooms⟫"#,
  r#"<table role="presentation" width="100%" cellpadding="6" cellspacing="0" style="margin-bottom: 12px; border: 1px solid #e5e9ef; border-radius: 6px; font-size: 14px;">"#,
  r#"  <tr>"#,
  r#"    <td style="font-weight: bold; text-align: ⟪@root.__meta.align⟫;">⟪add @index 1⟫. ⟪roomName⟫</td>"#,
  r#"    <td style="text-align: ⟪@root.__meta.oppositeAlign⟫;">⟪#if board⟫⟪t "hotel.board"⟫: ⟪board⟫⟪/if⟫</td>"#,
  r#"  </tr>"#,
  r#"  ⟪#each guests⟫"#,
  r#"  <tr>"#,
  r#"    <td colspan="2" style="color: #52606d; text-align: ⟪@root.__meta.align⟫;">⟪t "hotel.guest"⟫: ⟪t (concat "salutation." (salutation this))⟫ ⟪firstName⟫ ⟪lastName⟫</td>"#,
  r#"  </tr>"#,
  r#"  ⟪/each⟫"#,
  r#"</table>"#,
  r#"⟪/each⟫"#,
  r#"⟪/if⟫"#,
  r#"⟪#if priceItems⟫"#,
  r#"<table role="presentation" width="100%" cellpadding="6" cellspacing="0" style="border-collapse: collapse; font-size: 14px;">"#,
  r#"  ⟪#each priceItems⟫"#,
  r#"  <tr>"#,
  r#"    <td style="border-bottom: 1px solid #e5e9ef; text-align: ⟪@root.__meta.align⟫;">⟪label⟫</td>"#,
  r#"    <td style="border-bottom: 1px solid #e5e9ef; text-align: ⟪@root.__meta.oppositeAlign⟫;">⟪formatCurrency amount (firstValid currency @root.currency)⟫</td>"#,
  r#"  </tr>"#,
  r#"  ⟪/each⟫"#,
  r#"</table>"#,
  r#"⟪/if⟫"#,
  r#"⟪> payment⟫"#,
  r#"⟪#if freeCancellationUntil⟫"#,
  r#"<h3 style="margin: 24px 0 8px; font-size: 16px; color: #1a4d8f;">⟪t "hotel.cancellationPolicy"⟫</h3>"#,
  r#"<p style="margin: 0 0 16px;">⟪t "hotel.freeCancellation" date=(formatDate freeCancellationUntil)⟫</p>"#,
  r#"⟪/if⟫"#,
  r#"⟪#if notes⟫<p style="margin: 0 0 16px; color: #52606d;"><strong>⟪t "common.notes"⟫:</strong> ⟪notes⟫</p>⟪/if⟫"#,
  r#"<p style="margin: 0;">⟪t "common.regards"⟫<br>⟪t "common.team"⟫</p>"#,
  r#"⟪> footer⟫"#]

/-- The reservation of a holiday package. -/
def packageReservation : String := page [
  r#"⟪> header title=(t "subjects.packageReservation")⟫"#,
  r#"<h1 style="margin: 0 0 16px; font-size: 22px; color: #1a4d8f;">⟪t "package.title"⟫</h1>"#,
  r#"<p style="margin: 0 0 16px;">⟪t "common.greeting" name=(or customerName name)⟫</p>"#,
  r#"<table role="presentation" width="100%" cellpadding="6" cellspacing="0" style="border-collapse: collapse; font-size: 14px; margin-bottom: 16px;">"#,
  r#"  <tr>"#,
  r#"    <td style="color: #52606d; text-align: ⟪__meta.align⟫;">⟪t "common.reservationNumber"⟫</td>"#,
  r#"    <td style="font-weight: bold; text-align: ⟪__meta.oppositeAlign⟫;">⟪safe reservationNumber "reservationNumber"⟫</td>"#,
  r#"  </tr>"#,
  r#"  ⟪#if packageName⟫"#,
  r#"  <tr>"#,
  r#"    <td colspan="2" style="font-size: 16px; font-weight: bold; text-align: ⟪__meta.align⟫;">⟪packageName⟫</td>"#,
  r#"  </tr>"#,
  r#"  ⟪/if⟫"#,
  r#"  <tr>"#,
  r#"    <td style="color: #52606d; text-align: ⟪__meta.align⟫;">⟪t "package.dates"⟫</td>"#,
  r#"    <td style="text-align: ⟪__meta.oppositeAlign⟫;">⟪#if travelDates⟫⟪formatDateRange travelDates⟫⟪else⟫⟪formatDate startDate⟫ - ⟪formatDate endDate⟫⟪/if⟫</td>"#,
  r#"  </tr>"#,
  r#"</table>"#,
  r#"<h3 style="margin: 24px 0 8px; font-size: 16px; color: #1a4d8f;">⟪t "package.includes"⟫</h3>"#,
  r#"<ul style="margin: 0 0 16px; padding-⟪__meta.align⟫: 20px;">"#,
  r#"  ⟪#if hotelName⟫<li>⟪t "package.hotel"⟫: ⟪hotelName⟫</li>⟪/if⟫"#,
  r#"  ⟪#if flightSummary⟫<li>⟪t "package.flight"⟫: ⟪flightSummary⟫</li>⟪/if⟫"#,
  r#"  ⟪#if transferSummary⟫<li>⟪t "package.transfer"⟫: ⟪transferSummary⟫</li>⟪/if⟫"#,
  r#"</ul>"#,
  r#"⟪#if travellers⟫"#,
  r#"<h3 style="margin: 24px 0 8px; font-size: 16px; color: #1a4d8f;">⟪t "common.guests"⟫</h3>"#,
  r#"<ul style="margin: 0 0 16px; padding-⟪__meta.align⟫: 20px;">"#,
  r#"  ⟪#each travellers⟫"#,
  r#"  <li>⟪t (concat "salutation." (salutation this))⟫ ⟪firstName⟫ ⟪lastName⟫</li>"#,
  r#"  ⟪/each⟫"#,
  r#"</ul>"#,
  r#"⟪/if⟫"#,
  r#"⟪> payment⟫"#,
  r#"<p style="margin: 24px 0 0;">⟪t "common.regards"⟫<br>⟪t "common.team"⟫</p>"#,
  r#"⟪> footer⟫"#]

/-- A link to set a new password. -/
def passwordReset : String := page [
  r#"⟪> header title=(t "subjects.passwordReset")⟫"#,
  r#"<h1 style="margin: 0 0 16px; font-size: 22px; color: #1a4d8f;">⟪t "passwordReset.title"⟫</h1>"#,
  r#"<p style="margin: 0 0 16px;">⟪t "common.greeting" name=(or name customerName)⟫</p>"#,
  r#"<p style="margin: 0 0 24px;">⟪t "passwordReset.body"⟫</p>"#,
  r#"<p style="margin: 0 0 24px; text-align: ⟪__meta.align⟫;">"#,
  r#"  <a href="⟪safe resetUrl "resetUrl"⟫" style="display: inline-block; padding: 12px 24px; background-color: #1a4d8f; color: #ffffff; text-decoration: none; border-radius: 4px;">⟪t "passwordReset.cta"⟫</a>"#,
  r#"</p>"#,
  r#"⟪#if expiresInMinutes⟫"#,
  r#"<p style="margin: 0 0 16px; color: #52606d;">⟪t "passwordReset.expires" minutes=expiresInMinutes⟫</p>"#,
  r#"⟪/if⟫"#,
  r#"<p style="margin: 0 0 24px; color: #52606d;">⟪t "passwordReset.ignore"⟫</p>"#,
  r#"<p style="margin: 0;">⟪t "common.regards"⟫<br>⟪t "common.team"⟫</p>"#,
  r#"⟪> footer⟫"#]

/-- The confirmation of a reservation. -/
def reservationConfirmation : String := page [
  r#"⟪> header title=(t "subjects.reservationConfirmation")⟫"#,
  r#"<h1 style="margin: 0 0 16px; font-size: 22px; color: #1a4d8f;">⟪t "reservation.title"⟫</h1>"#,
  r#"<p style="margin: 0 0 16px;">⟪t "common.greeting" name=(or customerName name)⟫</p>"#,
  r#"<p style="margin: 0 0 24px;">⟪t "reservation.intro"⟫</p>"#,
  r#"<table role="presentation" width="100%" cellpadding="6" cellspacing="0" style="border-collapse: collapse; font-size: 14px; margin-bottom: 16px;">"#,
  r#"  <tr>"#,
  r#"    <td style="color: #52606d; text-align: ⟪__meta.align⟫;">⟪t "common.reservationNumber"⟫</td>"#,
  r#"    <td style="font-weight: bold; text-align: ⟪__meta.oppositeAlign⟫;">⟪safe reservationNumber "reservationNumber"⟫</td>"#,
  r#"  </tr>"#,
  r#"  ⟪#if serviceName⟫"#,
  r#"  <tr>"#,
  r#"    <td style="color: #52606d; text-align: ⟪__meta.align⟫;">⟪t "reservation.service"⟫</td>"#,
  r#"    <td style="text-align: ⟪__meta.oppositeAlign⟫;">⟪serviceName⟫</td>"#,
  r#"  </tr>"#,
  r#"  ⟪/if⟫"#,
  r#"  ⟪#if (or startDate reservationDate)⟫"#,
  r#"  <tr>"#,
  r#"    <td style="color: #52606d; text-align: ⟪__meta.align⟫;">⟪t "reservation.dates"⟫</td>"#,
  r#"    <td style="text-align: ⟪__meta.oppositeAlign⟫;">⟪formatDate (or startDate reservationDate)⟫⟪#if endDate⟫ - ⟪formatDate endDate⟫⟪/if⟫</td>"#,
  r#"  </tr>"#,
  r#"  ⟪/if⟫"#,
  r#"  ⟪#if guestCount⟫"#,
  r#"  <tr>"#,
  r#"    <td style="color: #52606d; text-align: ⟪__meta.align⟫;">⟪t "common.guests"⟫</td>"#,
  r#"    <td style="text-align: ⟪__meta.oppositeAlign⟫;">⟪guestCount⟫</td>"#,
  r#"  </tr>"#,
  r#"  ⟪/if⟫"#,
  r#"</table>"#,
  r#"⟪> payment⟫"#,
  r#"<p style="margin: 24px 0 0;">⟪t "common.regards"⟫<br>⟪t "common.team"⟫</p>"#,
  r#"⟪> footer⟫"#]

/-- The reservation of a transfer. -/
def transferReservation : String := page [
  r#"⟪> header title=(t "subjects.transferReservation")⟫"#,
  r#"<h1 style="margin: 0 0 16px; font-size: 22px; color: #1a4d8f;">⟪t "transfer.title"⟫</h1>"#,
  r#"<p style="margin: 0 0 16px;">⟪t "common.greeting" name=(or customerName name)⟫</p>"#,
  r#"<table role="presentation" width="100%" cellpadding="6" cellspacing="0" style="border-collapse: collapse; font-size: 14px; margin-bottom: 16px;">"#,
  r#"  <tr>"#,
  r#"    <td style="color: #52606d; text-align: ⟪__meta.align⟫;">⟪t "common.reservationNumber"⟫</td>"#,
  r#"    <td style="font-weight: bold; text-align: ⟪__meta.oppositeAlign⟫;">⟪safe reservationNumber "reservationNumber"⟫</td>"#,
  r#"  </tr>"#,
  r#"  <tr>"#,
  r#"    <td style="color: #52606d; text-align: ⟪__meta.align⟫;">⟪t "transfer.pickup"⟫</td>"#,
  r#"    <td style="text-align: ⟪__meta.oppositeAlign⟫;">⟪safe pickupLocation "pickupLocation"⟫</td>"#,
  r#"  </tr>"#,
  r#"  <tr>"#,
  r#"    <td style="color: #52606d; text-align: ⟪__meta.align⟫;">⟪t "transfer.dropoff"⟫</td>"#,
  r#"    <td style="text-align: ⟪__meta.oppositeAlign⟫;">⟪safe dropoffLocation "dropoffLocation"⟫</td>"#,
  r#"  </tr>"#,
  r#"  <tr>"#,
  r#"    <td style="color: #52606d; text-align: ⟪__meta.align⟫;">⟪t "transfer.pickupTime"⟫</td>"#,
  r#"    <td style="text-align: ⟪__meta.oppositeAlign⟫;">⟪formatDate pickupDate⟫ ⟪pickupTime⟫</td>"#,
  r#"  </tr>"#,
  r#"  ⟪#if vehicle⟫"#,
  r#"  <tr>"#,
  r#"    <td style="color: #52606d; text-align: ⟪__meta.align⟫;">⟪t "transfer.vehicle"⟫</td>"#,
  r#"    <td style="text-align: ⟪__meta.oppositeAlign⟫;">⟪vehicle⟫</td>"#,
  r#"  </tr>"#,
  r#"  ⟪/if⟫"#,
  r#"  ⟪#if passengerCount⟫"#,
  r#"  <tr>"#,
  r#"    <td style="color: #52606d; text-align: ⟪__meta.align⟫;">⟪t "transfer.passengers"⟫</td>"#,
  r#"    <td style="text-align: ⟪__meta.oppositeAlign⟫;">⟪passengerCount⟫</td>"#,
  r#"  </tr>"#,
  r#"  ⟪/if⟫"#,
  r#"</table>"#,
  r#"⟪> payment⟫"#,
  r#"<p style="margin: 24px 0 16px; color: #52606d;">⟪t "transfer.driverNote"⟫</p>"#,
  r#"<p style="margin: 0;">⟪t "common.regards"⟫<br>⟪t "common.team"⟫</p>"#,
  r#"⟪> footer⟫"#]

/-- The welcome to a new customer. -/
def welcome : String := page [
  r#"⟪> header title=(t "subjects.welcome")⟫"#,
  r#"<h1 style="margin: 0 0 16px; font-size: 22px; color: #1a4d8f;">⟪t "welcome.title"⟫</h1>"#,
  r#"<p style="margin: 0 0 16px;">⟪t "common.greeting" name=(or name customerName)⟫</p>"#,
  r#"<p style="margin: 0 0 24px;">⟪t "welcome.body"⟫</p>"#,
  r#"⟪#if actionUrl⟫"#,
  r#"<p style="margin: 0 0 24px; text-align: ⟪__meta.align⟫;">"#,
  r#"  <a href="⟪actionUrl⟫" style="display: inline-block; padding: 12px 24px; background-color: #1a4d8f; color: #ffffff; text-decoration: none; border-radius: 4px;">⟪t "welcome.cta"⟫</a>"#,
  r#"</p>"#,
  r#"⟪/if⟫"#,
  r#"<p style="margin: 0;">⟪t "common.regards"⟫<br>⟪t "common.team"⟫</p>"#,
  r#"⟪> footer⟫"#]

end Mailroom.Stock
