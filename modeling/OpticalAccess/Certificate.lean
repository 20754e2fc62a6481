import OpticalAccess.Der

/-!
# Certificates

A certificate says whose a public key is, and is signed. Of what it says only the form is looked at
here, and the public key. A certificate of version 3 may have extensions, of which the well-known
ones are given at most once and the unknown ones are not critical. The certificate of an authority
is taken as it is: unknown extensions of it may be critical, and it may be of version 1.
-/

namespace OpticalAccess

structure Certificate where
  publicKeyInfo : Bytes
  deriving DecidableEq, Repr

namespace Certificate

inductive Fault where
  | badEncoding
  | unsupportedVersion
  | algorithmMismatch
  | repeatedExtension
  | criticalExtension
  deriving DecidableEq, Repr

def Fault.message : Fault → String
  | badEncoding => "BadEncoding"
  | unsupportedVersion => "Other(OtherError(UnsupportedCertVersion))"
  | algorithmMismatch => "Other(OtherError(SignatureAlgorithmMismatch))"
  | repeatedExtension => "Other(OtherError(ExtensionValueInvalid))"
  | criticalExtension => "Other(OtherError(UnsupportedCriticalExtension))"

def lengthLimit : Nat := 0xFFFF

def take (tag : UInt8) (bytes : Bytes) : Except Fault (Bytes × Bytes) :=
  match Der.take? tag bytes with
  | some (content, rest) =>
    if content.length < lengthLimit then .ok (content, rest) else .error .badEncoding
  | none => .error .badEncoding

def finish (rest : Bytes) : Except Fault Unit :=
  if rest.isEmpty then .ok () else .error .badEncoding

def sole (tag : UInt8) (bytes : Bytes) : Except Fault Bytes := do
  let (content, rest) ← take tag bytes
  finish rest
  return content

/-! ### Extensions -/

def extensionArc : Bytes := [0x55, 0x1D]

def keyUsage : UInt8 := 15

/--
The extensions that are known, by the end of their identifier: the use of the key, other names of
the subject, whether it is an authority, for which names, where revocations are published, and the
further uses of the key.
-/
def knownExtensions : List UInt8 := [keyUsage, 17, 19, 30, 31, 37]

/-- Takes whether an extension is critical, which it is not if nothing is said. -/
def takeCritical (bytes : Bytes) : Except Fault (Bool × Bytes) := do
  if bytes.head? != some Der.booleanTag then return (false, bytes)
  match ← take Der.booleanTag bytes with
  | ([0xFF], rest) => return (true, rest)
  | ([0x00], rest) => return (false, rest)
  | _ => throw .badEncoding

/-- Looks at an extension; adds it to those that have been given if it is a known one. -/
def addExtension (lenient : Bool) (given : List UInt8) (bytes : Bytes) :
    Except Fault (List UInt8) := do
  let (identifier, rest) ← take Der.identifierTag bytes
  let (critical, rest) ← takeCritical rest
  let (value, rest) ← take Der.octetStringTag rest
  let given ←
    match knownExtensions.find? fun known => identifier = extensionArc ++ [known] with
    | none => if critical && !lenient then throw .criticalExtension else pure given
    | some known => do
      if known ∈ given then throw .repeatedExtension
      if known ≠ keyUsage then discard (sole Der.sequenceTag value)
      pure (known :: given)
  finish rest
  return given

def checkExtensions (lenient : Bool) :
    (fuel : Nat) → (given : List UInt8) → Bytes → Except Fault Unit
  | _, _, [] => .ok ()
  | 0, _, _ => .error .badEncoding
  | fuel + 1, given, bytes => do
    let (extension, rest) ← take Der.sequenceTag bytes
    checkExtensions lenient fuel (← addExtension lenient given extension) rest

/-! ### The whole -/

def takeVersion (bytes : Bytes) : Except Fault Bytes := do
  match take (Der.contextTag 0) bytes with
  | .error _ => throw .unsupportedVersion
  | .ok (content, rest) =>
    match Der.takeSmall? content with
    | none => throw .badEncoding
    | some (n, behind) =>
      if n = 2 && behind.isEmpty then return rest else throw .unsupportedVersion

/-- What is certified, how it is signed, and the signature. -/
def splitSigned (bytes : Bytes) : Except Fault (Bytes × Bytes) := do
  let (certified, rest) ← take Der.sequenceTag (← sole Der.sequenceTag bytes)
  let (algorithm, rest) ← take Der.sequenceTag rest
  let signature ← sole Der.bitStringTag rest
  if (Der.wholeBytes? signature).isNone then throw .badEncoding
  return (certified, algorithm)

def read (lenient : Bool) (bytes : Bytes) : Except Fault Certificate := do
  let (certified, algorithm) ← splitSigned bytes
  let rest ← takeVersion certified
  let (_serialNumber, rest) ← take Der.integerTag rest
  let (signature, rest) ← take Der.sequenceTag rest
  if signature ≠ algorithm then throw .algorithmMismatch
  let (_issuer, rest) ← take Der.sequenceTag rest
  let (_validity, rest) ← take Der.sequenceTag rest
  let (_subject, rest) ← take Der.sequenceTag rest
  let (publicKeyInfo, rest) ← take Der.sequenceTag rest
  if !rest.isEmpty then
    let (tagged, rest) ← take (Der.contextTag 3) rest
    let (extensions, behind) ← take Der.sequenceTag tagged
    checkExtensions lenient extensions.length [] extensions
    finish behind
    finish rest
  return ⟨publicKeyInfo⟩

/-- Reads a certificate of version 1, which has neither a version nor extensions. -/
def readFirstVersion (bytes : Bytes) : Except Fault Certificate := do
  let (certified, rest) ← take Der.sequenceTag (← sole Der.sequenceTag bytes)
  let (_serialNumber, fields) ← take Der.integerTag certified
  let (_signature, fields) ← take Der.sequenceTag fields
  let (_issuer, fields) ← take Der.sequenceTag fields
  let (_validity, fields) ← take Der.sequenceTag fields
  let (_subject, fields) ← take Der.sequenceTag fields
  let publicKeyInfo ← sole Der.sequenceTag fields
  let (_algorithm, rest) ← take Der.sequenceTag rest
  discard (sole Der.bitStringTag rest)
  return ⟨publicKeyInfo⟩

def readAuthority (bytes : Bytes) : Except Fault Certificate :=
  match read true bytes with
  | .error .unsupportedVersion => (readFirstVersion bytes).mapError fun _ => .badEncoding
  | result => result

end Certificate
end OpticalAccess
