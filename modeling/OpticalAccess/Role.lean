/-! # What a device is -/

namespace OpticalAccess

/-- A terminal has children and streams frames to its controller; a subscriber is a leaf. -/
inductive Role where
  | terminal
  | subscriber
  deriving DecidableEq, Repr

def Role.label : Role → String
  | terminal => "terminal"
  | subscriber => "subscriber"

end OpticalAccess
