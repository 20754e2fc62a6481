import OpticalAccess.Location

/-!
# Provisioned children

A registry says which child device sits behind which port of a terminal. Ports are provisioned
once; port 0 stands for the terminal itself.
-/

namespace OpticalAccess

/-- The port value that means the terminal itself. -/
def uplinkPort : Int32 := 0

/-- The internal port on which frames from the controller enter a device. -/
def egressPort : Int32 := 2

structure Child where
  uniPort : Int32
  location : Location
  deriving DecidableEq, Repr

/-- The children of a terminal, in the order in which they were provisioned. -/
structure Registry where
  children : List Child
  nodup : (children.map Child.uniPort).Nodup
  uplink_free : uplinkPort ∉ children.map Child.uniPort

namespace Registry

inductive Error where
  | uplinkPort
  | duplicatePort (port : Int32)
  deriving DecidableEq, Repr

def Error.message : Error → String
  | uplinkPort => "port 0 is reserved for the uplink"
  | duplicatePort port => "port " ++ Digits.intText port.toInt ++ " is already provisioned"

def empty : Registry := ⟨[], List.nodup_nil, List.not_mem_nil⟩

def ports (r : Registry) : List Int32 := r.children.map Child.uniPort

def size (r : Registry) : Nat := r.children.length

def isEmpty (r : Registry) : Bool := r.children.isEmpty

def find? (r : Registry) (port : Int32) : Option Location :=
  (r.children.find? fun c => c.uniPort = port).map Child.location

/-- Adds a child. The uplink port and provisioned ports are refused. -/
def provision (r : Registry) (child : Child) : Except Error Registry :=
  if uplink : child.uniPort = uplinkPort then .error .uplinkPort
  else if taken : child.uniPort ∈ r.children.map Child.uniPort then
    .error (.duplicatePort child.uniPort)
  else .ok
    { children := r.children ++ [child]
      nodup := by
        rw [List.map_append, List.map_cons, List.map_nil, List.nodup_append]
        refine ⟨r.nodup, by simp, fun a ha b hb => ?_⟩
        rw [List.mem_singleton.1 hb]
        exact fun e => taken (e ▸ ha)
      uplink_free := by
        rw [List.map_append, List.map_cons, List.map_nil, List.mem_append, List.mem_singleton]
        rintro (h | h)
        · exact r.uplink_free h
        · exact uplink h.symm }

/-- Provisions children in order, up to the first that is refused. -/
def ofChildren (children : List Child) : Except Error Registry :=
  children.foldlM provision empty

end Registry
end OpticalAccess
