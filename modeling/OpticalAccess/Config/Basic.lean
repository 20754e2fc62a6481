import OpticalAccess.ChildTransport
import OpticalAccess.Registry
import OpticalAccess.Role

/-!
# Configurations

What a node is told before it starts, and the conditions that a configuration has to meet.
-/

namespace OpticalAccess

structure DeviceConfig where
  role : Role
  name : String
  location : Location
  deriving DecidableEq, Repr

structure ServerTls where
  certificate : String
  key : String
  deriving DecidableEq, Repr

structure RouterConfig where
  statsFanoutConcurrency : UInt64 := 4
  relayBuffer : UInt64 := 64
  connectTimeoutMs : UInt64 := 2000
  callTimeoutMs : UInt64 := 5000
  deriving DecidableEq, Repr

structure Config where
  device : DeviceConfig
  children : List Child := []
  childTransport : ChildTransport
  serverTls : Option ServerTls := none
  router : RouterConfig := {}
  outgoingQueueSize : UInt64 := 1024
  deriving DecidableEq, Repr

namespace Config

inductive Invalid where
  | subscriberChildren (name : String)
  | reservedPort (location : Location)
  | duplicatePort (port : Int32)
  | noStatsFanout
  | noTimeout
  | noBuffer
  deriving DecidableEq, Repr

def Invalid.message : Invalid → String
  | subscriberChildren name => "subscriber " ++ name ++ " cannot declare children"
  | reservedPort location => "child " ++ location.host ++ " uses reserved port 0"
  | duplicatePort port => "duplicate child port " ++ Digits.intText port.toInt
  | noStatsFanout => "router.stats_fanout_concurrency must be at least 1"
  | noTimeout => "router.connect_timeout_ms and router.call_timeout_ms must be at least 1"
  | noBuffer => "relay_buffer and outgoing_queue_size must be at least 1"

/-- Checks children in order; `seen` holds the ports of those before them. -/
def checkChildren (seen : List Int32) : List Child → Except Invalid Unit
  | [] => .ok ()
  | child :: rest =>
    if child.uniPort = uplinkPort then .error (.reservedPort child.location)
    else if child.uniPort ∈ seen then .error (.duplicatePort child.uniPort)
    else checkChildren (child.uniPort :: seen) rest

/-- Checks a configuration; the first condition that fails is reported. -/
def check (c : Config) : Except Invalid Unit := do
  if c.device.role = .subscriber ∧ c.children ≠ [] then
    throw (.subscriberChildren c.device.name)
  checkChildren [] c.children
  if c.router.statsFanoutConcurrency = 0 then throw .noStatsFanout
  if c.router.connectTimeoutMs = 0 ∨ c.router.callTimeoutMs = 0 then throw .noTimeout
  if c.router.relayBuffer = 0 ∨ c.outgoingQueueSize = 0 then throw .noBuffer

end Config
end OpticalAccess
