import TenantGuard.Fault
import TenantGuard.Moment.Text

/-!
# What a fault tells the caller

`Fault.toWire` is the body of an answer that reports a fault.  It reads the code, the message and
the details and neither the internal message nor the source; a denial carries no details at all.
-/

namespace TenantGuard.Fault

/-- **The body of an answer that reports a fault.** -/
structure Wire where
  code : Code
  message : String
  details : Option Details
  timestamp : Moment
  deriving Repr, BEq

/-- What the caller is told, at the time `now`. -/
def toWire (f : Fault) (now : Moment) : Wire :=
  { code := f.code
    message := f.message
    details := if f.code == .permissionDenied || f.details.isEmpty then none else some f.details
    timestamp := now }

def Wire.toJson (w : Wire) : Json :=
  .object
    [("success", .boolean false),
     ("error", .object (Json.present
       [("code", some (.text w.code.wireName)),
        ("numeric_code", some (.ofNat w.code.number)),
        ("message", some (.text w.message)),
        ("details", w.details.map Details.toJson),
        ("timestamp", some (.text w.timestamp.toText))]))]

end TenantGuard.Fault
