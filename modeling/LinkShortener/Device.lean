/-!
The device classes that visits are counted under.
-/

namespace LinkShortener

/-- The class of the device behind a user agent; `unknown` is the class of those that match
no other. -/
inductive Device
  | mobile
  | tablet
  | desktop
  | bot
  | unknown
  deriving DecidableEq, Repr

def Device.text : Device → String
  | .mobile => "Mobile"
  | .tablet => "Tablet"
  | .desktop => "Desktop"
  | .bot => "Bot"
  | .unknown => "Unknown"

def Device.options : List (String × Device) :=
  [Device.mobile, .tablet, .desktop, .bot, .unknown].map fun d => (d.text, d)

end LinkShortener
