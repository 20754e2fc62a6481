import OpticalAccess.Log.Traced

/-!
# Calls to children

A connector makes the calls of a router to the children of its device. Calls happen in a world of
type `ω`: whatever else they touch is there.
-/

namespace OpticalAccess

structure Connector (ω : Type) where
  updateFlowTable : Location → FlowTable → ω → Traced (Except CallError Unit × ω)
  getStats : Location → ω → Traced (Except CallError Metrics × ω)

end OpticalAccess
