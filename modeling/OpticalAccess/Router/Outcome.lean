/-! # What becomes of a request that a router dispatches -/

namespace OpticalAccess

inductive Outcome where
  /-- Installed on the device, or accepted by the child it was passed to. -/
  | applied
  /-- The child is registered and the call to it failed. -/
  | targetUnreachable (reason : String)
  | targetUnknown
  | rejected (reason : String)
  deriving DecidableEq, Repr

namespace Outcome

def label : Outcome → String
  | applied => "applied"
  | targetUnreachable _ => "target_unreachable"
  | targetUnknown => "target_unknown"
  | rejected _ => "rejected"

def reason? : Outcome → Option String
  | targetUnreachable reason => some reason
  | rejected reason => some reason
  | _ => none

end Outcome
end OpticalAccess
