import OpticalAccess.Device.Error
import OpticalAccess.Location
import OpticalAccess.Log.Level
import OpticalAccess.Message
import OpticalAccess.Relay.Error
import OpticalAccess.Remote.Error
import OpticalAccess.Role
import OpticalAccess.Router.Outcome

/-!
# Events

What routers, relays, connectors and devices report while they work. An event has a level, a
message and named fields; most have a name and belong to a component. Two of them show the counters
of a device besides.
-/

namespace OpticalAccess

inductive Request where
  | flows
  | stats
  deriving DecidableEq, Repr

inductive Event where
  | frameReceived (device : Location) (frame : String)
  | frameForwarded (device : Location)
  | frameForwardFailed (device : Location) (error : DeviceError)
  | deviceInfo (device : Location) (role : Role) (info : DeviceInfo)
  | flowUpdateStarted (device : Location) (role : Role) (port : Int32) (flows : String)
  | dispatched (request : Request) (device : Location) (port : Int32) (outcome : Outcome)
  | flowUpdateDone (device : Location) (port : Int32) (outcome : Outcome)
  | statsStarted (device : Location) (role : Role)
  | childStatsReceived (device child : Location) (metrics : Metrics)
  | statsDone (device : Location) (metrics : Metrics)
  | relayStarted (device : String)
  | relayNotTerminal (device : Location)
  | relayReceived (device frame : String)
  | relaySent (device frame : String)
  | relaySendFailed (device : String) (error : RelayError)
  | relaySourceClosed (device : String)
  | relayStreamClosed (device : String)
  | plaintextTransport
  | connectStarted (host : String) (secure : Bool)
  | connectFailed (host : String) (fault : TransportFault)
  | callFailed (request : Request) (host : String) (error : CallError)
  | forwarding (role : Role) (device : Location) (port : Int32) (frame : String)
  | ingressDropped (device : Location) (port : Int32)
  | flowsInstalled (role : Role) (device : Location) (count : Nat)
  | childrenProvisioned (name : String) (count : Nat)
  deriving DecidableEq

namespace Event

def level : Event → Level
  | frameReceived .. | deviceInfo .. | flowUpdateStarted .. | flowUpdateDone .. | statsStarted ..
  | relayStarted .. | relayStreamClosed .. | flowsInstalled .. | childrenProvisioned .. => .info
  | frameForwarded .. | childStatsReceived .. | statsDone .. | relayReceived .. | relaySent ..
  | connectStarted .. | forwarding .. => .debug
  | relaySourceClosed .. | plaintextTransport | connectFailed .. | callFailed ..
  | ingressDropped .. => .warn
  | frameForwardFailed .. | relayNotTerminal .. | relaySendFailed .. => .error
  | dispatched _ _ _ outcome =>
    match outcome with
    | .applied => .debug
    | .targetUnknown => .warn
    | .targetUnreachable _ | .rejected _ => .error

def component? : Event → Option String
  | frameReceived .. | frameForwarded .. | frameForwardFailed .. | deviceInfo ..
  | flowUpdateStarted .. | dispatched .. | flowUpdateDone .. | statsStarted ..
  | childStatsReceived .. | statsDone .. => some "frame_router"
  | relayStarted .. | relayNotTerminal .. | relayReceived .. | relaySent .. | relaySendFailed ..
  | relaySourceClosed .. | relayStreamClosed .. => some "ingress_relay"
  | plaintextTransport | connectStarted .. | connectFailed .. | callFailed .. =>
    some "remote_client"
  | forwarding role .. | flowsInstalled role .. => some ("simulated_" ++ role.label)
  | ingressDropped .. => some "simulated_terminal"
  | childrenProvisioned .. => none

def name? : Event → Option String
  | frameReceived .. => some "send_frame_received"
  | frameForwarded .. => some "send_frame_forward_ok"
  | frameForwardFailed .. => some "send_frame_forward_failed"
  | deviceInfo .. => some "device_info"
  | flowUpdateStarted .. => some "flow_update_start"
  | dispatched .flows .. => some "flow_dispatch_outcome"
  | dispatched .stats .. => some "stats_child_outcome"
  | flowUpdateDone .. => some "flow_update_done"
  | statsStarted .. => some "stats_start"
  | childStatsReceived .. => some "stats_child_outcome"
  | statsDone .. => some "stats_done"
  | relayStarted .. => some "relay_start"
  | relayNotTerminal .. => some "relay_not_terminal"
  | relayReceived .. => some "relay_frame_received"
  | relaySent .. => some "relay_frame_sent"
  | relaySendFailed .. => some "relay_send_failed"
  | relaySourceClosed .. => some "relay_source_closed"
  | relayStreamClosed .. => some "relay_stream_closed"
  | plaintextTransport => some "remote_plaintext_transport"
  | connectStarted .. => some "remote_connect_start"
  | connectFailed .. => some "remote_connect_failed"
  | callFailed .. => some "remote_call_failed"
  | forwarding .. => some "sim_forward"
  | ingressDropped .. => some "sim_ingress_dropped"
  | flowsInstalled .. => some "sim_flows_installed"
  | childrenProvisioned .. => none

def message : Event → String
  | frameReceived .. => "constructed frame"
  | frameForwarded .. => "frame forwarded"
  | frameForwardFailed .. => "frame forward failed"
  | deviceInfo .. => "device information"
  | flowUpdateStarted .. => "updating flows"
  | dispatched _ _ _ outcome =>
    match outcome with
    | .applied => "dispatch applied"
    | .targetUnknown => "unable to find child device"
    | .targetUnreachable _ | .rejected _ => "dispatch failed"
  | flowUpdateDone .. => "updated flows"
  | statsStarted .. => "retrieving stats"
  | childStatsReceived .. => "child stats received"
  | statsDone .. => "retrieved stats"
  | relayStarted .. => "receiving frames from OLT device"
  | relayNotTerminal .. => "not handling an OLT device; no frames to relay"
  | relayReceived .. => "received incoming data"
  | relaySent .. => "sent incoming data"
  | relaySendFailed .. => "failed to send incoming data"
  | relaySourceClosed .. => "incoming data channel has closed"
  | relayStreamClosed .. => "controller stream closed; releasing outgoing channel"
  | plaintextTransport =>
    "child connections are unencrypted and unauthenticated; simulation use only"
  | connectStarted .. => "opening child connection"
  | connectFailed .. => "child connection failed"
  | callFailed .flows .. => "forwarding flow table to child failed"
  | callFailed .stats .. => "forwarding stats request to child failed"
  | forwarding .. => "forwarding frame"
  | ingressDropped .. => "dropping ingress frame"
  | flowsInstalled .. => "flow table replaced"
  | childrenProvisioned .. => "provisioned terminal children"

inductive Value where
  | text (value : String)
  | number (value : Int)
  | flag (value : Bool)
  deriving DecidableEq

private def hostField (device : Location) : String × Value := ("device", .text device.host)

private def portField (port : Int32) : String × Value := ("port", .number port.toInt)

private def roleField (role : Role) : String × Value := ("role", .text role.label)

private def outcomeField (outcome : Outcome) : String × Value := ("outcome", .text outcome.label)

def details : Event → List (String × Value)
  | frameReceived device frame => [hostField device, ("frame", .text frame)]
  | frameForwarded device => [hostField device, portField 2]
  | frameForwardFailed device error =>
    [hostField device, portField 2, ("err", .text error.message)]
  | deviceInfo device role info =>
    [hostField device, roleField role, ("nni_port", .number info.nniPort.toInt),
      ("uni_ports", .text info.uniPortText)]
  | flowUpdateStarted device role port flows =>
    [hostField device, roleField role, portField port, ("flows", .text flows)]
  | dispatched _ device port outcome =>
    [hostField device, portField port, outcomeField outcome] ++
      match outcome.reason? with
      | some reason => [("reason", .text reason)]
      | none => []
  | flowUpdateDone device port outcome => [hostField device, portField port, outcomeField outcome]
  | statsStarted device role => [hostField device, roleField role]
  | childStatsReceived device child _ => [hostField device, ("child", .text child.host)]
  | statsDone device _ => [hostField device]
  | relayStarted device => [("device", .text device)]
  | relayNotTerminal device => [hostField device, roleField .subscriber]
  | relayReceived device frame => [("device", .text device), ("frame", .text frame)]
  | relaySent device frame => [("device", .text device), ("frame", .text frame)]
  | relaySendFailed device error => [("device", .text device), ("err", .text error.message)]
  | relaySourceClosed device => [("device", .text device), ("reason", .text "source_closed")]
  | relayStreamClosed device => [("device", .text device), ("reason", .text "stream_closed")]
  | plaintextTransport => []
  | connectStarted host secure => [("host", .text host), ("secure", .flag secure)]
  | connectFailed host fault => [("host", .text host), ("err", .text fault.message)]
  | callFailed _ host error => [("host", .text host), ("err", .text error.message)]
  | forwarding _ device port frame => [hostField device, portField port, ("frame", .text frame)]
  | ingressDropped device port =>
    [hostField device, portField port, ("reason", .text "queue_full")]
  | flowsInstalled _ device count => [hostField device, ("count", .number count)]
  | childrenProvisioned name count => [("name", .text name), ("children", .number count)]

def fields (e : Event) : List (String × Value) :=
  ("message", .text e.message) ::
    (e.name?.toList.map fun name => ("event", .text name)) ++
    (e.component?.toList.map fun component => ("component", .text component)) ++ e.details

/-- The counters that an event shows behind its other fields, as a value of their own. -/
def metrics? : Event → Option Metrics
  | childStatsReceived _ _ metrics => some metrics
  | statsDone _ metrics => some metrics
  | _ => none

end Event
end OpticalAccess
