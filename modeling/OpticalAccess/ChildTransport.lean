import OpticalAccess.Document.Problem

/-!
# How children are reached

A terminal calls its children in plain text or over TLS. In a document the choice is an object with
a mode and the fields of the mode, in any order.
-/

namespace OpticalAccess

inductive ChildTransport where
  | plaintext
  | tls (caCertificate domainName : String)
  deriving DecidableEq, Repr

namespace ChildTransport

inductive Mode where
  | plaintext
  | tls
  deriving DecidableEq, Repr

namespace Mode

def labels : List String := ["plaintext", "tls"]

def ofLabel (s : String) : Except Problem Mode :=
  if s = "plaintext" then .ok plaintext
  else if s = "tls" then .ok tls
  else .error (.unknownVariant s labels)

end Mode

def typeName : String := "internally tagged enum ChildTransportSecurity"

def tlsName : String := "struct variant ChildTransportSecurity::Tls with 2 elements"

def asText : Content → Except Problem String
  | .text s => .ok s
  | c => .error (.wrongType c.found "a string")

structure TlsDraft where
  caCertificate : Option String := none
  domainName : Option String := none

/-- Takes one member into a draft; members with other names are left alone. -/
def TlsDraft.fill (draft : TlsDraft) : String × Content → Except Problem TlsDraft
  | (name, c) =>
    if name = "ca_certificate" then
      if draft.caCertificate.isSome then .error (.duplicateField name)
      else (asText c).map fun s => { draft with caCertificate := some s }
    else if name = "domain_name" then
      if draft.domainName.isSome then .error (.duplicateField name)
      else (asText c).map fun s => { draft with domainName := some s }
    else .ok draft

def TlsDraft.complete (draft : TlsDraft) : Except Problem ChildTransport :=
  match draft.caCertificate, draft.domainName with
  | some caCertificate, some domainName => .ok (tls caCertificate domainName)
  | none, _ => .error (.missingField "ca_certificate")
  | some _, none => .error (.missingField "domain_name")

def surplus (length asked : Nat) : Problem :=
  .wrongLength length
    (Digits.natText asked ++ (if asked = 1 then " element" else " elements") ++ " in sequence")

/-- The transport of a mode, from the other members of the object or items of the sequence. -/
def ofParts : Mode → Content → Except Problem ChildTransport
  | .plaintext, .sequence items =>
    if items.isEmpty then .ok plaintext else .error (surplus items.length 0)
  | .plaintext, _ => .ok plaintext
  | .tls, .map members => do (← members.foldlM TlsDraft.fill {}).complete
  | .tls, .sequence items =>
    match items with
    | [] => .error (.wrongLength 0 tlsName)
    | c :: rest => do
      let caCertificate ← asText c
      match rest with
      | [] => throw (.wrongLength 1 tlsName)
      | d :: rest =>
        let domainName ← asText d
        if rest.isEmpty then return tls caCertificate domainName
        else throw (surplus items.length 2)
  | .tls, c => .error (.wrongType c.found tlsName)

end ChildTransport
end OpticalAccess
