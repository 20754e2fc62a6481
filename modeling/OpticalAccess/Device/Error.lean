import OpticalAccess.Text.Digits

/-! # Why a device refuses -/

namespace OpticalAccess

inductive DeviceError where
  | portNotFound (port : Int32)
  | flowsRejected (reason : String)
  | unavailable (reason : String)
  deriving DecidableEq, Repr

namespace DeviceError

def message : DeviceError → String
  | portNotFound port => "no such port: " ++ Digits.intText port.toInt
  | flowsRejected reason => "flows rejected: " ++ reason
  | unavailable reason => "device unavailable: " ++ reason

def channelClosed : DeviceError := unavailable "outgoing channel closed"

def queueFull : DeviceError := unavailable "outgoing queue full"

end DeviceError
end OpticalAccess
