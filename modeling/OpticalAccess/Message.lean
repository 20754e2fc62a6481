import OpticalAccess.Counters
import OpticalAccess.Frame

/-!
# Messages between devices and controllers

The values that calls carry, and the report that a device makes of its counters.
-/

namespace OpticalAccess

structure Envelope where
  /-- The address of the device that streams the frame. -/
  id : String
  payload : Bytes
  deriving DecidableEq

structure DeviceInfo where
  nniPort : Int32
  uniPorts : List Int32
  deriving DecidableEq

/-- A rule of a flow table; what it matches and does is opaque here. -/
structure FlowRule where
  id : UInt64
  tableId : UInt32
  priority : UInt32
  cookie : UInt64
  matchFields : Bytes
  instructions : Bytes
  deriving DecidableEq

structure FlowTable where
  port : Int32
  flows : List FlowRule
  deriving DecidableEq

structure PacketCounter where
  name : String
  value : Int64
  deriving DecidableEq

structure PortMetrics where
  portName : String
  packets : List PacketCounter
  deriving DecidableEq

structure Metrics where
  device : String
  ports : List PortMetrics
  deriving DecidableEq

def Metrics.none : Metrics := ⟨"", []⟩

namespace FlowRule

def idChars : List FlowRule → List Char
  | [] => "none".toList
  | flows => '[' :: [','].intercalate (flows.map fun f => Digits.decimal f.id.toNat) ++ [']']

def idText (flows : List FlowRule) : String := String.ofList (idChars flows)

end FlowRule

namespace DeviceInfo

def uniPortText (i : DeviceInfo) : String :=
  String.ofList
    ('[' :: ", ".toList.intercalate (i.uniPorts.map fun p => Digits.signed p.toInt) ++ [']'])

end DeviceInfo

namespace Counters

def reportLimit : Nat := 0x7FFFFFFFFFFFFFFF

def name (direction : Direction) (bin : SizeBin) : String := direction.label ++ "_" ++ bin.label

/-- The counters of one side, sent before received. -/
def packets (c : Counters) (side : Side) : List PacketCounter :=
  Direction.all.flatMap fun direction => SizeBin.all.map fun bin =>
    ⟨name direction bin, Int64.ofNat (min (c.get side direction bin) reportLimit)⟩

def metrics (c : Counters) (device : String) : Metrics :=
  ⟨device, Side.all.map fun side => ⟨side.label, c.packets side⟩⟩

end Counters
end OpticalAccess
