import OpticalAccess.Config.Device
import OpticalAccess.Config.Reader
import OpticalAccess.Network.Basic

/-!
# Setting networks up

The nodes of a network are given part by part, or by the text of a configuration.
-/

namespace OpticalAccess.Network

structure Parts where
  role : Role
  location : Location
  children : List Child
  queueSize : Nat
  settings : Settings
  forwardFault : Option DeviceError
  installFault : Option DeviceError
  /-- Ports that are listed besides those of the children. -/
  extraPorts : List Int32

inductive Plan where
  | parts (parts : Parts)
  | config (text : String)

inductive SetupError where
  | children (error : Registry.Error)
  | config (error : Config.Error)
  | capacity

def Parts.device (p : Parts) : Except SetupError Device :=
  let device (machine : Machine) (view? : Option ChildView) : Device :=
    ⟨machine, p.forwardFault, p.installFault, view?⟩
  match p.role with
  | .subscriber => .ok (device (.subscriber { location := p.location }) none)
  | .terminal =>
    match Registry.ofChildren p.children with
    | .error error => .error (.children error)
    | .ok registry =>
      if IngressQueue.validCapacity (max 1 p.queueSize) then
        .ok (device (.terminal (.new p.location registry p.queueSize))
          (some ⟨registry.ports ++ p.extraPorts, registry.find?⟩))
      else .error .capacity

/-- Makes a node. A node of a dialled network first gets a dialler in plain text. -/
def makeNode (dialled : Bool) (name : String) (plan : Plan) : Traced (Except SetupError Node) := do
  if dialled then Traced.emit .plaintextTransport
  match plan with
  | .parts p =>
    match p.device with
    | .error error => return .error error
    | .ok device => return .ok { name, device, settings := p.settings }
  | .config text =>
    match Config.parse text with
    | .error error => return .error (.config error)
    | .ok config =>
      match ← config.buildDevice with
      | .error (.children error) => return .error (.children error)
      | .error .capacity => return .error .capacity
      | .ok device => return .ok { name, device, settings := config.settings, closed := true }

/-- Makes nodes in order, up to the first that cannot be made. -/
def makeNodes (dialled : Bool) : List (String × Plan) → Traced (Except SetupError (List Node))
  | [] => return .ok []
  | (name, plan) :: rest => do
    match ← makeNode dialled name plan with
    | .error error => return .error error
    | .ok node =>
      match ← makeNodes dialled rest with
      | .error error => return .error error
      | .ok nodes => return .ok (node :: nodes)

def setup (dialled : Bool) (callTimeoutMs : Nat) (plans : List (String × Plan)) :
    Traced (Except SetupError Network) := do
  match ← makeNodes dialled plans with
  | .error error => return .error error
  | .ok nodes =>
    let links := if dialled then Links.dialled ⟨none, callTimeoutMs⟩ else .direct
    return .ok { nodes, links, callTimeoutMs }

end OpticalAccess.Network
