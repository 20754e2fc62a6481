import OpticalAccess.Config.Basic
import OpticalAccess.Device.Basic
import OpticalAccess.Router.Basic

/-!
# The device of a configuration
-/

namespace OpticalAccess.Config

inductive BuildError where
  | children (error : Registry.Error)
  | capacity
  deriving DecidableEq, Repr

def buildDevice (c : Config) : Traced (Except BuildError Device) := do
  match c.device.role with
  | .subscriber => return .ok { machine := .subscriber { location := c.device.location } }
  | .terminal =>
    match Registry.ofChildren c.children with
    | .error error => return .error (.children error)
    | .ok registry =>
      Traced.emit (.childrenProvisioned c.device.name registry.size)
      let size := c.outgoingQueueSize.toNat
      if IngressQueue.validCapacity (max 1 size) then
        return .ok { machine := .terminal (.new c.device.location registry size) }
      else return .error .capacity

def settings (c : Config) : Settings where
  statsFanout := c.router.statsFanoutConcurrency.toNat
  relayBuffer := c.router.relayBuffer.toNat

end OpticalAccess.Config
