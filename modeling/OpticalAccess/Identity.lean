import OpticalAccess.Certificate
import OpticalAccess.PrivateKey.Basic

/-!
# Identities of servers

A node that serves over TLS shows a certificate, for which it needs the private key. Both are read
before the node starts, and the certificate must be for the public key that belongs to the private
one.
-/

namespace OpticalAccess.Identity

inductive Fault where
  | certificates
  /-- There is no private key, or what stands before it cannot be read. -/
  | noKey
  | keyContent
  | noCertificate
  | certificateContent (fault : Certificate.Fault)
  | mismatch
  deriving DecidableEq, Repr

def Fault.message : Fault → String
  | certificates => "Error parsing TLS certificate."
  | noKey => "Error parsing TLS private key - no RSA or PKCS8-encoded keys found."
  | keyContent => "unexpected error: failed to parse private key as RSA, ECDSA, or EdDSA"
  | noCertificate => "peer sent no certificates"
  | certificateContent fault => "invalid peer certificate: " ++ fault.message
  | mismatch => "keys may not be consistent: KeyMismatch"

/-- Checks the text of certificates and that of a key; of the certificates the first counts. -/
def check (certificates key : String) : Except Fault Unit := do
  let certificates ← (Pem.certificates certificates).mapError fun _ => .certificates
  let key ←
    match Pem.privateKey key with
    | .ok (some (kind, bytes)) =>
      match PrivateKey.read? kind bytes with
      | some key => pure key
      | none => throw .keyContent
    | _ => throw .noKey
  match certificates with
  | [] => throw .noCertificate
  | first :: _ =>
    let certificate ← (Certificate.read false first).mapError .certificateContent
    if certificate.publicKeyInfo ≠ key.publicKeyInfo then throw .mismatch

end OpticalAccess.Identity
