import OpticalAccess.Text.Digits

/-! # Where a device is reached -/

namespace OpticalAccess

/-- The address and the port at which a device serves its controller or its parent. -/
structure Location where
  address : String
  port : UInt16
  deriving DecidableEq, Repr

namespace Location

def hostChars (l : Location) : List Char :=
  l.address.toList ++ ':' :: Digits.decimal l.port.toNat

/-- `address:port`, the name of the device in logs and on the network. -/
def host (l : Location) : String := String.ofList l.hostChars

/-- The URI that is dialled, with or without transport security. -/
def endpoint (l : Location) (secure : Bool) : String :=
  String.ofList ((if secure then "https://".toList else "http://".toList) ++ l.hostChars)

end Location
end OpticalAccess
