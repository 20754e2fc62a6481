import OpticalAccess.ChildTransport.Json
import OpticalAccess.Config.Basic

/-!
# Configurations in JSON

A configuration is written with all its fields, those that have their defaults as well.
-/

namespace OpticalAccess

def DeviceConfig.jsonChars (d : DeviceConfig) : List Char :=
  Json.object [("role", Json.quote d.role.label), ("name", Json.quote d.name),
    ("address", Json.quote d.location.address), ("port", Digits.decimal d.location.port.toNat)]

def Child.jsonChars (c : Child) : List Char :=
  Json.object [("uni_port", Digits.signed c.uniPort.toInt),
    ("address", Json.quote c.location.address), ("port", Digits.decimal c.location.port.toNat)]

def ServerTls.jsonChars (t : ServerTls) : List Char :=
  Json.object [("certificate", Json.quote t.certificate), ("key", Json.quote t.key)]

def RouterConfig.jsonChars (r : RouterConfig) : List Char :=
  Json.object [("stats_fanout_concurrency", Digits.decimal r.statsFanoutConcurrency.toNat),
    ("relay_buffer", Digits.decimal r.relayBuffer.toNat),
    ("connect_timeout_ms", Digits.decimal r.connectTimeoutMs.toNat),
    ("call_timeout_ms", Digits.decimal r.callTimeoutMs.toNat)]

namespace Config

def jsonChars (c : Config) : List Char :=
  Json.object [("device", c.device.jsonChars),
    ("children", Json.array (c.children.map Child.jsonChars)),
    ("child_transport", c.childTransport.jsonChars),
    ("server_tls",
      match c.serverTls with
      | none => "null".toList
      | some tls => tls.jsonChars),
    ("router", c.router.jsonChars),
    ("outgoing_queue_size", Digits.decimal c.outgoingQueueSize.toNat)]

def json (c : Config) : String := String.ofList c.jsonChars

end Config
end OpticalAccess
