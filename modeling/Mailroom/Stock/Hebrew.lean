import Mailroom.Json.Basic

/-!
# The Hebrew document

The layout, the subject lines and the phrases that messages in Hebrew are made of.
-/

namespace Mailroom.Stock

/-- The document of the Hebrew locale. -/
def hebrew : Json :=
  .obj [
    ("common", .obj [
      ("automated", .str "זוהי הודעה אוטומטית, נא לא להשיב ישירות."),
      ("date", .str "תאריך"),
      ("greeting", .str "\x7b\x7bname\x7d\x7d היקר/ה,"),
      ("guests", .str "אורחים"),
      ("notes", .str "הערות"),
      ("questions", .str "לשאלות ניתן להשיב להודעה זו או לפנות לצוות התמיכה שלנו."),
      ("regards", .str "בברכה,"),
      ("reservationNumber", .str "מספר הזמנה"),
      ("rights", .str "כל הזכויות שמורות."),
      ("team", .str "צוות Ara Travel"),
      ("total", .str "סה\"כ")]),
    ("flight", .obj [
      ("arrival", .str "נחיתה"),
      ("baggage", .str "כבודה"),
      ("checkin", .str "צ'ק-אין מקוון נפתח 24 שעות לפני ההמראה."),
      ("departure", .str "המראה"),
      ("detailsTitle", .str "פרטי הטיסה"),
      ("flightNumber", .str "טיסה"),
      ("passengers", .str "נוסעים"),
      ("pnr", .str "קוד הזמנה (PNR)"),
      ("ticketNumber", .str "מספר כרטיס"),
      ("title", .str "הטיסה שלך הוזמנה")]),
    ("hotel", .obj [
      ("address", .str "כתובת"),
      ("board", .str "בסיס אירוח"),
      ("cancellationPolicy", .str "מדיניות ביטול"),
      ("checkIn", .str "צ'ק-אין"),
      ("checkOut", .str "צ'ק-אאוט"),
      ("confirmationNumber", .str "מספר אישור"),
      ("freeCancellation", .str "ביטול ללא עלות עד \x7b\x7bdate\x7d\x7d"),
      ("guest", .str "אורח"),
      ("phone", .str "טלפון"),
      ("pinCode", .str "קוד PIN"),
      ("rooms", .str "חדרים"),
      ("stay", .str "שהייה"),
      ("title", .str "השהייה שלך אושרה")]),
    ("meta", .obj [
      ("align", .str "right"),
      ("direction", .str "rtl"),
      ("fontFamily", .str "Arial, Helvetica, sans-serif")]),
    ("package", .obj [
      ("dates", .str "תאריכי נסיעה"),
      ("flight", .str "טיסה"),
      ("hotel", .str "מלון"),
      ("includes", .str "החבילה כוללת"),
      ("title", .str "חבילת הנופש שלך הוזמנה"),
      ("transfer", .str "הסעה")]),
    ("passwordReset", .obj [
      ("body",
        .str "קיבלנו בקשה לאיפוס הסיסמה של חשבונך. השתמש/י בכפתור למטה כדי לבחור סיסמה חדשה."),
      ("cta", .str "איפוס סיסמה"),
      ("expires", .str "הקישור יפוג בעוד \x7b\x7bminutes\x7d\x7d דקות."),
      ("ignore", .str "אם לא ביקשת איפוס, ניתן להתעלם מהודעה זו."),
      ("title", .str "בקשה לאיפוס סיסמה")]),
    ("payment", .obj [
      ("amount", .str "סכום ששולם"),
      ("card", .str "כרטיס"),
      ("cardEnding", .str "המסתיים ב-\x7b\x7blast4\x7d\x7d"),
      ("cardHolder", .str "בעל הכרטיס"),
      ("date", .str "תאריך תשלום"),
      ("status", .str "סטטוס"),
      ("title", .str "פרטי תשלום")]),
    ("reservation", .obj [
      ("dates", .str "תאריכים"),
      ("intro", .str "תודה שהזמנת אצלנו. פרטי ההזמנה מופיעים למטה."),
      ("service", .str "שירות"),
      ("title", .str "ההזמנה שלך אושרה")]),
    ("salutation", .obj [
      ("CHD", .str "ילד"),
      ("MR", .str "מר"),
      ("MRS", .str "גברת")]),
    ("subjects", .obj [
      ("flightDetails", .str "פרטי הטיסה שלך"),
      ("flightTicket", .str "כרטיס הטיסה שלך"),
      ("hotelReservation", .str "הזמנת המלון שלך"),
      ("packageReservation", .str "חבילת הנופש שלך"),
      ("passwordReset", .str "איפוס הסיסמה שלך"),
      ("reservationConfirmation", .str "ההזמנה אושרה"),
      ("transferReservation", .str "הזמנת ההסעה שלך"),
      ("welcome", .str "ברוכים הבאים ל-Ara Travel")]),
    ("transfer", .obj [
      ("driverNote", .str "הנהג ימתין לך עם שלט הנושא את שמך."),
      ("dropoff", .str "נקודת הורדה"),
      ("passengers", .str "נוסעים"),
      ("pickup", .str "נקודת איסוף"),
      ("pickupTime", .str "שעת איסוף"),
      ("title", .str "ההסעה שלך הוזמנה"),
      ("vehicle", .str "רכב")]),
    ("welcome", .obj [
      ("body", .str "החשבון שלך נוצר. כעת ניתן להזמין טיסות, מלונות והסעות בכמה לחיצות."),
      ("cta", .str "לחשבון שלי"),
      ("title", .str "ברוכים הבאים!")])]

end Mailroom.Stock
