import OpticalAccess.Status

/-! # Why a relay ends -/

namespace OpticalAccess

inductive RelayError where
  /-- The queue is empty and has no producer. -/
  | sourceClosed
  | streamWrite (reason : String)
  deriving DecidableEq, Repr

namespace RelayError

def streamClosed : RelayError := streamWrite "stream_closed"

def message : RelayError → String
  | sourceClosed => "incoming data channel has closed"
  | streamWrite reason => "stream write failed: " ++ reason

def status : RelayError → Status
  | sourceClosed => ⟨.unavailable, "incoming data channel has closed"⟩
  | streamWrite reason => ⟨.aborted, "failed to send incoming data: " ++ reason⟩

end RelayError
end OpticalAccess
