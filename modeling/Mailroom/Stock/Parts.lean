import Mailroom.Stock.Page

/-!
# Template parts

The parts that the message templates share: the frame above and below the body, and the table of
payment details.
-/

namespace Mailroom.Stock

/-- The frame above the body. -/
def header : String := page [
  r#"<!DOCTYPE html>"#,
  r#"<html lang="⟪__meta.locale⟫" dir="⟪__meta.direction⟫">"#,
  r#"<head>"#,
  r#"  <meta charset="utf-8">"#,
  r#"  <meta name="viewport" content="width=device-width, initial-scale=1.0">"#,
  r#"  <title>⟪title⟫</title>"#,
  r#"</head>"#,
  r#"<body style="margin: 0; padding: 0; background-color: #f4f6f8; font-family: ⟪__meta.fontFamily⟫;">"#,
  r#"  <table role="presentation" width="100%" cellpadding="0" cellspacing="0" style="background-color: #f4f6f8;">"#,
  r#"    <tr>"#,
  r#"      <td align="center" style="padding: 24px 12px;">"#,
  r#"        <table role="presentation" width="600" cellpadding="0" cellspacing="0" dir="⟪__meta.direction⟫" style="max-width: 600px; background-color: #ffffff; border-radius: 8px; text-align: ⟪__meta.align⟫;">"#,
  r#"          <tr>"#,
  r#"            <td style="padding: 24px 32px; border-bottom: 1px solid #e5e9ef; text-align: ⟪__meta.align⟫;">"#,
  r#"              ⟪#if __meta.logoUrl⟫"#,
  r#"              <img src="⟪__meta.logoUrl⟫" alt="Ara Travel" height="40" style="display: block; height: 40px; border: 0;">"#,
  r#"              ⟪else⟫"#,
  r#"              <span style="font-size: 22px; font-weight: bold; color: #1a4d8f;">Ara Travel</span>"#,
  r#"              ⟪/if⟫"#,
  r#"            </td>"#,
  r#"          </tr>"#,
  r#"          <tr>"#,
  r#"            <td style="padding: 32px; color: #1f2933; font-size: 15px; line-height: 1.6; text-align: ⟪__meta.align⟫;">"#]

/-- The table of payment details. -/
def payment : String := page [
  r#"⟪#if (or totalAmount cardLast4 paymentDate) includeZero=true⟫"#,
  r#"<h3 style="margin: 24px 0 8px; font-size: 16px; color: #1a4d8f;">⟪t "payment.title"⟫</h3>"#,
  r#"<table role="presentation" width="100%" cellpadding="6" cellspacing="0" style="border-collapse: collapse; font-size: 14px;">"#,
  r#"  ⟪#if paymentDate⟫"#,
  r#"  <tr>"#,
  r#"    <td style="color: #52606d; text-align: ⟪__meta.align⟫;">⟪t "payment.date"⟫</td>"#,
  r#"    <td style="text-align: ⟪__meta.oppositeAlign⟫;">⟪formatDate paymentDate⟫</td>"#,
  r#"  </tr>"#,
  r#"  ⟪/if⟫"#,
  r#"  ⟪#if paymentStatus⟫"#,
  r#"  <tr>"#,
  r#"    <td style="color: #52606d; text-align: ⟪__meta.align⟫;">⟪t "payment.status"⟫</td>"#,
  r#"    <td style="text-align: ⟪__meta.oppositeAlign⟫;">⟪paymentStatus⟫</td>"#,
  r#"  </tr>"#,
  r#"  ⟪/if⟫"#,
  r#"  ⟪#if cardLast4⟫"#,
  r#"  <tr>"#,
  r#"    <td style="color: #52606d; text-align: ⟪__meta.align⟫;">⟪t "payment.card"⟫</td>"#,
  r#"    <td style="text-align: ⟪__meta.oppositeAlign⟫;">"#,
  r#"      ⟪#if cardLogoUrl⟫<img src="⟪cardLogoUrl⟫" alt="⟪cardBrand⟫" height="16" style="vertical-align: middle; border: 0;"> ⟪/if⟫⟪cardBrand⟫ ⟪t "payment.cardEnding" last4=cardLast4⟫"#,
  r#"    </td>"#,
  r#"  </tr>"#,
  r#"  ⟪/if⟫"#,
  r#"  ⟪#if cardHolder⟫"#,
  r#"  <tr>"#,
  r#"    <td style="color: #52606d; text-align: ⟪__meta.align⟫;">⟪t "payment.cardHolder"⟫</td>"#,
  r#"    <td style="text-align: ⟪__meta.oppositeAlign⟫;">⟪cardHolder⟫</td>"#,
  r#"  </tr>"#,
  r#"  ⟪/if⟫"#,
  r#"  ⟪#if totalAmount includeZero=true⟫"#,
  r#"  <tr>"#,
  r#"    <td style="color: #52606d; font-weight: bold; text-align: ⟪__meta.align⟫;">⟪t "payment.amount"⟫</td>"#,
  r#"    <td style="font-weight: bold; text-align: ⟪__meta.oppositeAlign⟫;">⟪formatCurrency totalAmount currency⟫</td>"#,
  r#"  </tr>"#,
  r#"  ⟪/if⟫"#,
  r#"</table>"#,
  r#"⟪/if⟫"#]

/-- The frame below the body. -/
def footer : String := page [
  r#"            </td>"#,
  r#"          </tr>"#,
  r#"          <tr>"#,
  r#"            <td style="padding: 24px 32px; border-top: 1px solid #e5e9ef; color: #7b8794; font-size: 12px; line-height: 1.5; text-align: ⟪__meta.align⟫;">"#,
  r#"              <p style="margin: 0 0 8px;">⟪t "common.questions"⟫</p>"#,
  r#"              <p style="margin: 0 0 8px;">⟪t "common.automated"⟫</p>"#,
  r#"              <p style="margin: 0;">&copy; ⟪formatDate (now)⟫ Ara Travel. ⟪t "common.rights"⟫</p>"#,
  r#"            </td>"#,
  r#"          </tr>"#,
  r#"        </table>"#,
  r#"      </td>"#,
  r#"    </tr>"#,
  r#"  </table>"#,
  r#"</body>"#,
  r#"</html>"#]

end Mailroom.Stock
