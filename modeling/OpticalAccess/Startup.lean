import OpticalAccess.CommandLine
import OpticalAccess.Config.Device
import OpticalAccess.Config.Reader
import OpticalAccess.Identity
import OpticalAccess.Network.Basic

/-!
# Starting nodes

A node reads its configuration, makes its device and the dialler for its children, and then, if it
is to serve over TLS, its identity. It starts to serve only if all of that succeeds; the first
failure is reported with its causes.
-/

namespace OpticalAccess

inductive StartupError where
  | configFile (path : String) (error : FileError)
  | config (path : String) (error : Config.Error)
  | children (error : Registry.Error)
  | dialer (error : CallError)
  | certificateFile (path : String) (error : FileError)
  | keyFile (path : String) (error : FileError)
  | identity (fault : Identity.Fault)
  | capacity
  deriving DecidableEq, Repr

namespace StartupError

def breaksOff : StartupError → Bool
  | config _ error => error.breaksOff
  | capacity => true
  | _ => false

def summary : StartupError → String
  | configFile path _ => "unable to read config file " ++ path
  | config path _ => "invalid config file " ++ path
  | children _ => "invalid child list"
  | dialer _ => "unable to set up child connections"
  | certificateFile path _ => "unable to read server certificate " ++ path
  | keyFile path _ => "unable to read server key " ++ path
  | identity _ => "invalid server TLS configuration"
  | capacity => "no queue can have the capacity that was asked for"

/-- An arrow to a place, behind as many blanks as its line has digits. -/
def arrowTo (place : Position) : String :=
  let line := Digits.decimal place.line
  String.ofList (List.replicate line.length ' ' ++ "--> ".toList ++ line ++ ':' ::
    Digits.decimal place.column)

def configCauses : Config.Error → List String
  | .malformed place => ["unable to parse config", arrowTo place]
  | .fault fault => ["unable to parse config", fault.problem.message .json5]
  | .invalid reason => [reason.message]

/-- What stands behind the failure, each cause behind the one that it explains. -/
def causes : StartupError → List String
  | configFile _ error | certificateFile _ error | keyFile _ error => [error.message]
  | config _ error => configCauses error
  | children error => [error.message]
  | dialer error =>
    error.message ::
      match error with
      | .tlsMaterial _ reason => [reason]
      | _ => []
  | identity fault => [TransportFault.transport.message, fault.message]
  | capacity => []

def indented (width : Nat) (s : String) : String :=
  ("\n" ++ "".pushn ' ' width).intercalate (s.splitOn "\n")

/-- Causes from some number on, each on a line of its own. -/
def numbered : (number : Nat) → List String → String
  | _, [] => ""
  | number, cause :: rest =>
    let digits := Digits.decimal number
    "\n" ++ String.ofList (List.replicate (5 - digits.length) ' ' ++ digits) ++ ": " ++
      indented 7 cause ++ numbered (number + 1) rest

/-- The failure as it is reported; a single cause has no number. -/
def report (e : StartupError) : String :=
  "Error: " ++ e.summary ++
    (match e.causes with
      | [] => ""
      | [cause] => "\n\nCaused by:\n    " ++ indented 4 cause
      | causes => "\n\nCaused by:" ++ numbered 0 causes) ++ "\n"

end StartupError

namespace Startup

structure Ready where
  node : Node
  dialer : Dialer

/-- The network that such a node sees: itself alone. -/
def Ready.network (r : Ready) : Network where
  nodes := [r.node]
  links := .dialled r.dialer
  callTimeoutMs := r.dialer.callTimeoutMs

variable (read : String → Except FileError String)

def load (path : String) : Except StartupError Config :=
  match read path with
  | .error error => .error (.configFile path error)
  | .ok text => (Config.parse text).mapError (.config path)

def assemble (c : Config) : Traced (Except StartupError Ready) := do
  match ← c.buildDevice with
  | .error (.children error) => return .error (.children error)
  | .error .capacity => return .error .capacity
  | .ok device =>
    match ← Dialer.new c.childTransport read c.router.callTimeoutMs.toNat with
    | .error error => return .error (.dialer error)
    | .ok dialer =>
      let node : Node := { name := c.device.name, device, settings := c.settings, closed := true }
      return .ok ⟨node, dialer⟩

def secure (c : Config) : Except StartupError Unit :=
  match c.serverTls with
  | none => .ok ()
  | some tls => do
    let certificate ← (read tls.certificate).mapError (.certificateFile tls.certificate)
    let key ← (read tls.key).mapError (.keyFile tls.key)
    (Identity.check certificate key).mapError .identity

def start (path : String) : Traced (Except StartupError Ready) := do
  match load read path with
  | .error error => return .error error
  | .ok c =>
    match ← assemble read c with
    | .error error => return .error error
    | .ok ready => return (secure read c).map fun () => ready

inductive Launch where
  | serving (ready : Ready)
  | help
  | misuse (error : UsageError)
  | failed (error : StartupError)

def launch (arguments : List String) : Traced Launch := do
  match CommandLine.parse arguments with
  | .error error => return .misuse error
  | .ok .help => return .help
  | .ok (.serve path) =>
    match ← start read path with
    | .error error => return .failed error
    | .ok ready => return .serving ready

namespace Launch

/-- The code with which a node ends; one that serves ends well when it is told to. -/
def exitCode : Launch → UInt8
  | serving _ | help => 0
  | misuse _ => 2
  | failed error => if error.breaksOff then 101 else 1

def isServing : Launch → Bool
  | serving _ => true
  | _ => false

end Launch

/-- The files that a configuration asks for, in the order in which they are read. -/
def filesOf (c : Config) : List String :=
  (match c.childTransport with
    | .plaintext => []
    | .tls caCertificate _ => [caCertificate]) ++
    match c.serverTls with
    | none => []
    | some tls => [tls.certificate, tls.key]

end Startup
end OpticalAccess
