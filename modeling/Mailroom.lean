import Mailroom.Main
import Mailroom.Proofs.Template.Inclusion
import Mailroom.Service.Router
import Mailroom.Stock.Shipped
import Mailroom.Proofs.Template.Library
import Mailroom.Proofs.Template.Desk
import Mailroom.Proofs.Template.Snapshot
import Mailroom.Proofs.Template.Renderer
import Mailroom.Proofs.Service.Accounting
import Mailroom.Proofs.Rate.Bucket
import Mailroom.Proofs.Rate.Limiter
import Mailroom.Proofs.Template.Ensuring
import Mailroom.Proofs.Template.Escaping
import Mailroom.Proofs.Template.Spelling
import Mailroom.Proofs.Rate.Outlook
import Mailroom.Proofs.Rate.Refusal
import Mailroom.Proofs.Stock.Rendering
import Mailroom.Proofs.Rate.Exactness
import Mailroom.Proofs.Calendar.Showing
import Mailroom.Proofs.Payload.Logos
import Mailroom.Proofs.Calendar.Forms
import Mailroom.Proofs.Money.Amount
import Mailroom.Proofs.Template.Translating
import Mailroom.Proofs.Locale.Interpolation
import Mailroom.Proofs.Service.Submission
import Mailroom.Proofs.Template.Ledger
import Mailroom.Proofs.Service.Configured
import Mailroom.Proofs.Stock.Totals
import Mailroom.Proofs.Mail.Acceptance
import Mailroom.Proofs.Service.Key
import Mailroom.Proofs.Service.Length
import Mailroom.Proofs.Service.Origins
import Mailroom.Proofs.Payload.Sameness
import Mailroom.Proofs.Settings.Overriding
import Mailroom.Proofs.Service.Labels
import Mailroom.Proofs.Locale.SubjectLine
import Mailroom.Proofs.Mail.BlindCopies
import Mailroom.Proofs.Service.Concealment
