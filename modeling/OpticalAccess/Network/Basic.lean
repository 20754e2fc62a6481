import OpticalAccess.Network.Session
import OpticalAccess.Remote.Dialer
import OpticalAccess.Router.Basic

/-!
# Networks

Routers that reach each other by their locations. A call to a child is made in the same world, where
the child's own router may make further calls. Hosts can be down, silent or failing.
-/

namespace OpticalAccess

structure Node where
  name : String
  device : Device
  settings : Settings := {}
  /-- Whether the device is only reached through its router. -/
  closed : Bool := false
  sessions : List Session := []

inductive Reach where
  | up
  | down
  | silent
  | failing (status : Status)
  deriving DecidableEq

inductive Links where
  /-- In memory. -/
  | direct
  /-- Over connections; no host of such a network listens. -/
  | dialled (dialer : Dialer)

structure Nested where
  caller : String
  host : String
  /-- The table that it carries; a request for counters carries none. -/
  table : Option FlowTable

structure Network where
  nodes : List Node
  links : Links := .direct
  callTimeoutMs : Nat := 5000
  /-- Hosts that are not up. -/
  faults : List (String × Reach) := []
  /-- The calls made so far, oldest first. -/
  calls : List Nested := []
  /-- The node and the session behind the name of a stream. -/
  streams : List (String × String × Nat) := []
  /-- The number of sessions opened so far. -/
  opened : Nat := 0

namespace Network

def node? (w : Network) (name : String) : Option Node := w.nodes.find? (·.name = name)

/-- The node at a location; of several the last. -/
def at? (w : Network) (location : Location) : Option Node :=
  w.nodes.reverse.find? (·.device.location = location)

def modify (w : Network) (name : String) (f : Node → Node) : Network :=
  { w with nodes := w.nodes.map fun n => if n.name = name then f n else n }

def setDevice (w : Network) (name : String) (device : Device) : Network :=
  w.modify name fun n => { n with device }

def reach (w : Network) (host : String) : Reach := (w.faults.lookup host).getD .up

def setReach (w : Network) (host : String) (reach : Reach) : Network :=
  { w with faults := (host, reach) :: w.faults }

/-- What a call in memory meets at a location: a node, or the reason why there is none. -/
def meet (w : Network) (location : Location) : Except CallError Node :=
  let host := location.host
  let refused : CallError := .rpc host ⟨.unavailable, "connection refused"⟩
  match w.reach host with
  | .down => .error refused
  | .silent => .error (.timeout host (1000 * w.callTimeoutMs))
  | .failing status => .error (.rpc host status)
  | .up =>
    match w.at? location with
    | some node => .ok node
    | none => .error refused

def record (w : Network) (caller : String) (location : Location) (table : Option FlowTable) :
    Network :=
  { w with calls := w.calls ++ [⟨caller, location.host, table⟩] }

/-- Calls in flight come back in the order in which they were made. -/
def inOrder (_ : Fanout κ) : Nat := 0

/-- The device of a node, as far as there is one. -/
def deviceOf (fallback : Device) (name : String) (w : Network) : Device :=
  ((w.node? name).map Node.device).getD fallback

def serveFlows (C : Connector Network) (n : Node) (table : FlowTable) (w : Network) :
    Traced (Outcome × Network) := do
  let (outcome, device, w) ← Router.dispatch C n.device table w
  return (outcome, w.setDevice n.name device)

/-- The router of a node is asked for counters; its calls come back as `order` says. -/
def serveStats (C : Connector Network) (n : Node) (order : Fanout (Int32 × Location) → Nat)
    (w : Network) : Traced (Metrics × Nat × Network) :=
  Router.collectStats C n.settings order (deviceOf n.device n.name) w

/--
The calls of the router of `caller`. At most `depth` routers take part one behind the other; a call
that would need more goes round in circles, so that it is never answered in time.
-/
def connector : (depth : Nat) → (caller : String) → Connector Network
  | 0, caller =>
    { updateFlowTable := fun location table w =>
        return (.error (.timeout location.host (1000 * w.callTimeoutMs)),
          w.record caller location (some table))
      getStats := fun location w =>
        return (.error (.timeout location.host (1000 * w.callTimeoutMs)),
          w.record caller location none) }
  | depth + 1, caller =>
    { updateFlowTable := fun location table w => do
        let w := w.record caller location (some table)
        match w.links with
        | .dialled dialer => dialer.call .flows location .absent w
        | .direct =>
          match w.meet location with
          | .error error => return (.error error, w)
          | .ok child =>
            let (_, w) ← serveFlows (connector depth child.name) child table w
            return (.ok (), w)
      getStats := fun location w => do
        let w := w.record caller location none
        match w.links with
        | .dialled dialer => dialer.call .stats location .absent w
        | .direct =>
          match w.meet location with
          | .error error => return (.error error, w)
          | .ok child =>
            let (metrics, _, w) ← serveStats (connector depth child.name) child inOrder w
            return (.ok metrics, w) }

/-- The calls of a node's router; a path without circles visits every node at most once. -/
def connectorOf (w : Network) (caller : String) : Connector Network :=
  connector w.nodes.length caller

/-- Lets the sessions of a node run. -/
def settle (w : Network) (name : String) : Traced Network := do
  match w.node? name with
  | none => return w
  | some n =>
    let (sessions, device) ← Session.settle n.sessions n.device
    return w.modify name fun n => { n with sessions, device }

end Network
end OpticalAccess
