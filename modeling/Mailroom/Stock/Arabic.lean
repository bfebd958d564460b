import Mailroom.Json.Basic

/-!
# The Arabic document

The layout, the subject lines and the phrases that messages in Arabic are made of.
-/

namespace Mailroom.Stock

/-- The document of the Arabic locale. -/
def arabic : Json :=
  .obj [
    ("common", .obj [
      ("automated", .str "هذه رسالة آلية، يرجى عدم الرد عليها مباشرة."),
      ("date", .str "التاريخ"),
      ("greeting", .str "عزيزي \x7b\x7bname\x7d\x7d،"),
      ("guests", .str "الضيوف"),
      ("notes", .str "ملاحظات"),
      ("questions",
        .str "إذا كانت لديك أي أسئلة، يمكنك الرد على هذا البريد أو التواصل مع فريق الدعم."),
      ("regards", .str "مع أطيب التحيات،"),
      ("reservationNumber", .str "رقم الحجز"),
      ("rights", .str "جميع الحقوق محفوظة."),
      ("team", .str "فريق Ara Travel"),
      ("total", .str "المجموع")]),
    ("flight", .obj [
      ("arrival", .str "الوصول"),
      ("baggage", .str "الأمتعة"),
      ("checkin", .str "يفتح تسجيل الوصول عبر الإنترنت قبل 24 ساعة من المغادرة."),
      ("departure", .str "المغادرة"),
      ("detailsTitle", .str "تفاصيل الرحلة"),
      ("flightNumber", .str "الرحلة"),
      ("passengers", .str "المسافرون"),
      ("pnr", .str "رمز الحجز (PNR)"),
      ("ticketNumber", .str "رقم التذكرة"),
      ("title", .str "تم حجز رحلتك")]),
    ("hotel", .obj [
      ("address", .str "العنوان"),
      ("board", .str "نوع الإقامة"),
      ("cancellationPolicy", .str "سياسة الإلغاء"),
      ("checkIn", .str "تسجيل الدخول"),
      ("checkOut", .str "تسجيل المغادرة"),
      ("confirmationNumber", .str "رقم التأكيد"),
      ("freeCancellation", .str "إلغاء مجاني حتى \x7b\x7bdate\x7d\x7d"),
      ("guest", .str "الضيف"),
      ("phone", .str "الهاتف"),
      ("pinCode", .str "رمز PIN"),
      ("rooms", .str "الغرف"),
      ("stay", .str "الإقامة"),
      ("title", .str "تم تأكيد إقامتك")]),
    ("meta", .obj [
      ("align", .str "right"),
      ("direction", .str "rtl"),
      ("fontFamily", .str "Tahoma, Arial, sans-serif")]),
    ("package", .obj [
      ("dates", .str "تواريخ السفر"),
      ("flight", .str "الرحلة"),
      ("hotel", .str "الفندق"),
      ("includes", .str "تشمل الباقة"),
      ("title", .str "تم حجز باقة عطلتك"),
      ("transfer", .str "التوصيل")]),
    ("passwordReset", .obj [
      ("body",
        .str "تلقينا طلبًا لإعادة تعيين كلمة مرور حسابك. استخدم الزر أدناه لاختيار كلمة مرور جديدة."),
      ("cta", .str "إعادة تعيين كلمة المرور"),
      ("expires", .str "تنتهي صلاحية هذا الرابط خلال \x7b\x7bminutes\x7d\x7d دقيقة."),
      ("ignore", .str "إذا لم تطلب إعادة التعيين، يمكنك تجاهل هذا البريد."),
      ("title", .str "طلب إعادة تعيين كلمة المرور")]),
    ("payment", .obj [
      ("amount", .str "المبلغ المدفوع"),
      ("card", .str "البطاقة"),
      ("cardEnding", .str "تنتهي بـ \x7b\x7blast4\x7d\x7d"),
      ("cardHolder", .str "حامل البطاقة"),
      ("date", .str "تاريخ الدفع"),
      ("status", .str "الحالة"),
      ("title", .str "تفاصيل الدفع")]),
    ("reservation", .obj [
      ("dates", .str "التواريخ"),
      ("intro", .str "شكرًا لحجزك معنا. تفاصيل الحجز أدناه."),
      ("service", .str "الخدمة"),
      ("title", .str "تم تأكيد حجزك")]),
    ("salutation", .obj [
      ("CHD", .str "طفل"),
      ("MR", .str "السيد"),
      ("MRS", .str "السيدة")]),
    ("subjects", .obj [
      ("flightDetails", .str "تفاصيل رحلتك"),
      ("flightTicket", .str "تذكرة رحلتك"),
      ("hotelReservation", .str "حجز الفندق الخاص بك"),
      ("packageReservation", .str "باقة عطلتك"),
      ("passwordReset", .str "إعادة تعيين كلمة المرور"),
      ("reservationConfirmation", .str "تم تأكيد الحجز"),
      ("transferReservation", .str "حجز التوصيل الخاص بك"),
      ("welcome", .str "مرحبًا بك في Ara Travel")]),
    ("transfer", .obj [
      ("driverNote", .str "سينتظرك السائق حاملًا لافتة باسمك."),
      ("dropoff", .str "مكان الوصول"),
      ("passengers", .str "الركاب"),
      ("pickup", .str "مكان الاستلام"),
      ("pickupTime", .str "وقت الاستلام"),
      ("title", .str "تم حجز التوصيل"),
      ("vehicle", .str "المركبة")]),
    ("welcome", .obj [
      ("body", .str "تم إنشاء حسابك. يمكنك الآن حجز الرحلات والفنادق والتوصيلات ببضع نقرات."),
      ("cta", .str "الذهاب إلى حسابي"),
      ("title", .str "أهلًا بك!")])]

end Mailroom.Stock
