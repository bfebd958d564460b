/-!
# Why a message was not delivered
-/

namespace Mailroom.Mail

/-- The stage at which a message was given up, with the reason. -/
inductive Fault where
  | address (reason : String)
  | build (reason : String)
  | send (reason : String)
  | connection (reason : String)
  | config (reason : String)
deriving DecidableEq, Repr

/-- The wording of a fault. -/
def Fault.message : Fault → String
  | .address reason => "Invalid email address: " ++ reason
  | .build reason => "Failed to build message: " ++ reason
  | .send reason => "Failed to send email: " ++ reason
  | .connection reason => "SMTP connection failed: " ++ reason
  | .config reason => "Invalid mail configuration: " ++ reason

end Mailroom.Mail
