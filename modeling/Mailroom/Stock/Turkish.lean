import Mailroom.Json.Basic

/-!
# The Turkish document

The layout, the subject lines and the phrases that messages in Turkish are made of.
-/

namespace Mailroom.Stock

/-- The document of the Turkish locale. -/
def turkish : Json :=
  .obj [
    ("common", .obj [
      ("automated", .str "Bu otomatik bir mesajdır, lütfen doğrudan yanıtlamayınız."),
      ("date", .str "Tarih"),
      ("greeting", .str "Sayın \x7b\x7bname\x7d\x7d,"),
      ("guests", .str "Misafirler"),
      ("notes", .str "Notlar"),
      ("questions",
        .str "Sorularınız için bu e-postayı yanıtlayabilir veya destek ekibimizle iletişime geçebilirsiniz."),
      ("regards", .str "Saygılarımızla,"),
      ("reservationNumber", .str "Rezervasyon numarası"),
      ("rights", .str "Tüm hakları saklıdır."),
      ("team", .str "Ara Travel Ekibi"),
      ("total", .str "Toplam")]),
    ("flight", .obj [
      ("arrival", .str "Varış"),
      ("baggage", .str "Bagaj"),
      ("checkin", .str "Online check-in kalkıştan 24 saat önce açılır."),
      ("departure", .str "Kalkış"),
      ("detailsTitle", .str "Uçuş bilgileri"),
      ("flightNumber", .str "Uçuş"),
      ("passengers", .str "Yolcular"),
      ("pnr", .str "Rezervasyon kodu (PNR)"),
      ("ticketNumber", .str "Bilet numarası"),
      ("title", .str "Uçuşunuz onaylandı")]),
    ("hotel", .obj [
      ("address", .str "Adres"),
      ("board", .str "Pansiyon"),
      ("cancellationPolicy", .str "İptal koşulları"),
      ("checkIn", .str "Giriş"),
      ("checkOut", .str "Çıkış"),
      ("confirmationNumber", .str "Onay numarası"),
      ("freeCancellation", .str "\x7b\x7bdate\x7d\x7d tarihine kadar ücretsiz iptal"),
      ("guest", .str "Misafir"),
      ("phone", .str "Telefon"),
      ("pinCode", .str "PIN kodu"),
      ("rooms", .str "Odalar"),
      ("stay", .str "Konaklama"),
      ("title", .str "Konaklamanız onaylandı")]),
    ("meta", .obj [
      ("align", .str "left"),
      ("direction", .str "ltr"),
      ("fontFamily", .str "Segoe UI, Tahoma, Geneva, Verdana, sans-serif")]),
    ("package", .obj [
      ("dates", .str "Seyahat tarihleri"),
      ("flight", .str "Uçuş"),
      ("hotel", .str "Otel"),
      ("includes", .str "Paket içeriği"),
      ("title", .str "Tatil paketiniz onaylandı"),
      ("transfer", .str "Transfer")]),
    ("passwordReset", .obj [
      ("body",
        .str "Hesabınızın şifresini sıfırlama talebi aldık. Yeni şifrenizi belirlemek için aşağıdaki butonu kullanın."),
      ("cta", .str "Şifreyi sıfırla"),
      ("expires",
        .str "Bu bağlantı \x7b\x7bminutes\x7d\x7d dakika içinde geçerliliğini yitirecektir."),
      ("ignore", .str "Bu talebi siz yapmadıysanız bu e-postayı dikkate almayabilirsiniz."),
      ("title", .str "Şifre sıfırlama talebi")]),
    ("payment", .obj [
      ("amount", .str "Ödenen tutar"),
      ("card", .str "Kart"),
      ("cardEnding", .str "son dört hanesi \x7b\x7blast4\x7d\x7d"),
      ("cardHolder", .str "Kart sahibi"),
      ("date", .str "Ödeme tarihi"),
      ("status", .str "Durum"),
      ("title", .str "Ödeme bilgileri")]),
    ("reservation", .obj [
      ("dates", .str "Tarihler"),
      ("intro",
        .str "Bizi tercih ettiğiniz için teşekkür ederiz. Rezervasyon bilgileriniz aşağıdadır."),
      ("service", .str "Hizmet"),
      ("title", .str "Rezervasyonunuz onaylandı")]),
    ("salutation", .obj [
      ("CHD", .str "Çocuk"),
      ("MR", .str "Bay"),
      ("MRS", .str "Bayan")]),
    ("subjects", .obj [
      ("flightDetails", .str "Uçuş bilgileriniz"),
      ("flightTicket", .str "Uçak biletiniz"),
      ("hotelReservation", .str "Otel rezervasyonunuz"),
      ("packageReservation", .str "Tatil paketiniz"),
      ("passwordReset", .str "Şifrenizi sıfırlayın"),
      ("reservationConfirmation", .str "Rezervasyonunuz onaylandı"),
      ("transferReservation", .str "Transfer rezervasyonunuz"),
      ("welcome", .str "Ara Travel'a hoş geldiniz")]),
    ("transfer", .obj [
      ("driverNote", .str "Şoförünüz sizi isim tabelası ile karşılayacaktır."),
      ("dropoff", .str "Bırakış noktası"),
      ("passengers", .str "Yolcular"),
      ("pickup", .str "Alış noktası"),
      ("pickupTime", .str "Alış saati"),
      ("title", .str "Transferiniz onaylandı"),
      ("vehicle", .str "Araç")]),
    ("welcome", .obj [
      ("body",
        .str "Hesabınız oluşturuldu. Artık birkaç tıklamayla uçak, otel ve transfer rezervasyonu yapabilirsiniz."),
      ("cta", .str "Hesabıma git"),
      ("title", .str "Aramıza hoş geldiniz!")])]

end Mailroom.Stock
