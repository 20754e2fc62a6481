import OpticalAccess.Log.Event
import OpticalAccess.Text.Quoted

/-!
# Events as lines

The fields of an event stand one after the other. Counters are written out as the message in which
they are reported, with the names of its fields.
-/

namespace OpticalAccess

/-! ### Counters -/

namespace Metrics

/-- Items between brackets. -/
def bracketed (items : List String) : String := "[" ++ ", ".intercalate items ++ "]"

def packetDump (c : PacketCounter) : String :=
  "PonSimPacketCounter \x7b name: " ++ Quoted.text c.name ++
    ", value: " ++ Digits.intText c.value.toInt ++ " \x7d"

def portDump (p : PortMetrics) : String :=
  "PonSimPortMetrics \x7b port_name: " ++ Quoted.text p.portName ++
    ", packets: " ++ bracketed (p.packets.map packetDump) ++ " \x7d"

def dump (m : Metrics) : String :=
  "PonSimMetrics \x7b device: " ++ Quoted.text m.device ++
    ", metrics: " ++ bracketed (m.ports.map portDump) ++ " \x7d"

end Metrics

/-! ### Lines -/

namespace Event

def Value.line : Value → String
  | text value => value
  | number value => Digits.intText value
  | flag value => if value then "true" else "false"

def line (e : Event) : String :=
  " ".intercalate
    (e.level.label :: e.message :: (e.details.map fun (name, value) => name ++ "=" ++ value.line) ++
      e.metrics?.toList.map fun metrics => "metrics=" ++ metrics.dump)

end Event
end OpticalAccess
