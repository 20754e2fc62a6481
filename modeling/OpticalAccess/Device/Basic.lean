import OpticalAccess.Device.Subscriber
import OpticalAccess.Device.Terminal

/-!
# Devices

A router serves one device. A device may be out of order: then it refuses forwards or flow tables
without any effect. What a terminal shows of its children need not be its own registry: it may list
ports behind which there is no child.
-/

namespace OpticalAccess

structure ChildView where
  ports : List Int32
  find? : Int32 → Option Location

def Registry.view (r : Registry) : ChildView := ⟨r.ports, r.find?⟩

inductive Machine where
  | terminal (t : Terminal)
  | subscriber (s : Subscriber)

structure Device where
  machine : Machine
  /-- What every forward answers, if forwarding is out of order. -/
  forwardFault : Option DeviceError := none
  /-- What every installation answers, if installing is out of order. -/
  installFault : Option DeviceError := none
  /-- What a terminal shows of its children; none if it shows its registry. -/
  view? : Option ChildView := none

namespace Device

def role (d : Device) : Role :=
  match d.machine with
  | .terminal _ => .terminal
  | .subscriber _ => .subscriber

def location (d : Device) : Location :=
  match d.machine with
  | .terminal t => t.location
  | .subscriber s => s.location

def flows (d : Device) : List FlowRule :=
  match d.machine with
  | .terminal t => t.flows
  | .subscriber s => s.flows

def metrics (d : Device) : Metrics :=
  match d.machine with
  | .terminal t => t.metrics
  | .subscriber s => s.metrics

/-- The children of a terminal as its router sees them; a subscriber has none. -/
def view (d : Device) : ChildView :=
  match d.machine with
  | .terminal t => d.view?.getD t.registry.view
  | .subscriber _ => ⟨[], fun _ => none⟩

def childPorts (d : Device) : List Int32 := d.view.ports

def childLocation? (d : Device) (port : Int32) : Option Location := d.view.find? port

def forward (d : Device) (port : Int32) (frame : Frame) :
    Traced (Except DeviceError Unit × Device) := do
  match d.forwardFault with
  | some fault => return (.error fault, d)
  | none =>
    match d.machine with
    | .terminal t =>
      let (result, t) ← t.forward port frame
      return (result, { d with machine := .terminal t })
    | .subscriber s => return (.ok (), { d with machine := .subscriber (← s.forward port frame) })

def install (d : Device) (flows : List FlowRule) : Traced (Except DeviceError Unit × Device) := do
  match d.installFault with
  | some fault => return (.error fault, d)
  | none =>
    match d.machine with
    | .terminal t => return (.ok (), { d with machine := .terminal (← t.install flows) })
    | .subscriber s => return (.ok (), { d with machine := .subscriber (← s.install flows) })

end Device
end OpticalAccess
