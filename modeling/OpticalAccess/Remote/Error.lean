import OpticalAccess.Status
import OpticalAccess.Text.Digits

/-! # Why a call to a child fails -/

namespace OpticalAccess

inductive TransportFault where
  | invalidUri
  | transport
  deriving DecidableEq, Repr

def TransportFault.message : TransportFault → String
  | invalidUri => "invalid URI"
  | transport => "transport error"

inductive CallError where
  | invalidEndpoint (host : String) (fault : TransportFault)
  | tlsMaterial (path reason : String)
  | connect (host : String) (fault : TransportFault)
  | rpc (host : String) (status : Status)
  | timeout (host : String) (micros : Nat)
  deriving DecidableEq, Repr

namespace CallError

def message : CallError → String
  | invalidEndpoint host fault => "invalid endpoint for " ++ host ++ ": " ++ fault.message
  | tlsMaterial path reason => "unable to read TLS material " ++ path ++ ": " ++ reason
  | connect host fault => "unable to connect to " ++ host ++ ": " ++ fault.message
  | rpc host status =>
    "call to " ++ host ++ " failed: " ++ status.code.name ++ " " ++ status.message
  | timeout host micros =>
    "call to " ++ host ++ " timed out after " ++ Digits.natText (micros / 1000) ++ "ms"

/-- Whether another error stands behind this one: always, except when time ran out. -/
def hasSource : CallError → Bool
  | timeout .. => false
  | _ => true

end CallError
end OpticalAccess
