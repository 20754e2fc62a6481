import OpticalAccess.Certificate
import OpticalAccess.ChildTransport
import OpticalAccess.Files
import OpticalAccess.Location.Uri
import OpticalAccess.Log.Traced
import OpticalAccess.Pem
import OpticalAccess.ServerName

/-!
# Dialling

A dialler opens a connection of its own for every call. It fails before it connects if the location
is no endpoint, and while it connects if nothing listens; a call as a whole is bounded in time.
-/

namespace OpticalAccess

structure TlsIdentity where
  authority : String
  domainName : String
  deriving DecidableEq, Repr

def isAuthorityText (text : String) : Bool :=
  match Pem.certificates text with
  | .ok certificates => certificates.all fun bytes => (Certificate.readAuthority bytes).isOk
  | .error _ => false

def TlsIdentity.isUsable (t : TlsIdentity) : Bool :=
  isAuthorityText t.authority && ServerName.isValid t.domainName

structure Dialer where
  tls : Option TlsIdentity
  callTimeoutMs : Nat
  deriving DecidableEq, Repr

namespace Dialer

/-- Makes a dialler; the certificate of the authority is read once, here. -/
def new (transport : ChildTransport) (read : String → Except FileError String)
    (callTimeoutMs : Nat) :
    Traced (Except CallError Dialer) := do
  match transport with
  | .plaintext =>
    Traced.emit .plaintextTransport
    return .ok ⟨none, callTimeoutMs⟩
  | .tls caCertificate domainName =>
    match read caCertificate with
    | .ok authority => return .ok ⟨some ⟨authority, domainName⟩, callTimeoutMs⟩
    | .error error => return .error (.tlsMaterial caCertificate error.message)

/-- What is behind an address, in a world of type `ω`. -/
inductive Peer (ω α : Type) where
  | absent
  /-- Connections are taken and never answered. -/
  | silent
  | serving (answer : ω → Traced (Except Status α × ω))

def endpointFault? (d : Dialer) (location : Location) : Option TransportFault :=
  if !location.dialable d.tls.isSome then some .invalidUri
  else if d.tls.all TlsIdentity.isUsable then none
  else some .transport

def attempt (d : Dialer) (location : Location) (peer : Peer ω α) (w : ω) :
    Traced (Except CallError α × ω) := do
  Traced.emit (.connectStarted location.host d.tls.isSome)
  match d.endpointFault? location with
  | some fault => return (.error (.invalidEndpoint location.host fault), w)
  | none =>
    match peer with
    | .absent =>
      Traced.emit (.connectFailed location.host .transport)
      return (.error (.connect location.host .transport), w)
    | .silent => return (.error (.timeout location.host (1000 * d.callTimeoutMs)), w)
    | .serving answer =>
      let (result, w) ← answer w
      match result with
      | .ok value => return (.ok value, w)
      | .error status => return (.error (.rpc location.host status), w)

/-- One call to a child; its failure is logged. -/
def call (d : Dialer) (request : Request) (location : Location) (peer : Peer ω α) (w : ω) :
    Traced (Except CallError α × ω) := do
  let (result, w) ← d.attempt location peer w
  match result with
  | .ok value => return (.ok value, w)
  | .error error =>
    Traced.emit (.callFailed request location.host error)
    return (.error error, w)

/-- A first call over a new dialler, to an address at which nothing listens. -/
def probe (transport : ChildTransport) (files : Files) (callTimeoutMs : Nat) (request : Request)
    (location : Location) : Traced (Except CallError Unit) := do
  match ← new transport files.readText callTimeoutMs with
  | .error error => return .error error
  | .ok dialer =>
    let (result, _) ← dialer.call request location (.absent : Peer Unit Unit) ()
    return result

end Dialer
end OpticalAccess
