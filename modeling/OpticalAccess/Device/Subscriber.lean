import OpticalAccess.Log.Traced
import OpticalAccess.Registry

/-!
# The simulated subscriber

A subscriber only receives. Frames from the controller arrive on the optical side, any other frame
on the side of the subscriber.
-/

namespace OpticalAccess

structure Subscriber where
  location : Location
  flows : List FlowRule := []
  counters : Counters := {}

namespace Subscriber

def sideOf (port : Int32) : Side := if port = egressPort then .pon else .nni

def forward (s : Subscriber) (port : Int32) (frame : Frame) : Traced Subscriber := do
  Traced.emit (.forwarding .subscriber s.location port frame.describe)
  return { s with counters := s.counters.count (sideOf port) .rx frame.length }

def install (s : Subscriber) (flows : List FlowRule) : Traced Subscriber := do
  Traced.emit (.flowsInstalled .subscriber s.location flows.length)
  return { s with flows }

def metrics (s : Subscriber) : Metrics := s.counters.metrics s.location.address

end Subscriber
end OpticalAccess
