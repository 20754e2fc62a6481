import OpticalAccess.Der

/-!
# Private keys of any algorithm

A key stands in an envelope that names its algorithm. Of the envelope there are two versions; the
second holds the public key as well.
-/

namespace OpticalAccess

structure WrappedKey where
  algorithm : Bytes
  content : Bytes
  /-- The public key, in an envelope of the second version. -/
  publicKey : Option Bytes
  deriving DecidableEq, Repr

namespace WrappedKey

/-- Skips attributes, which do not matter. -/
def skipAttributes (bytes : Bytes) : Option Bytes :=
  if bytes.head? = some (Der.contextTag 0) then (Der.take? (Der.contextTag 0) bytes).map (·.2)
  else some bytes

/-- Reads the public key, which is a string of bits; the tag says that or stands around it. -/
def readPublicKey? (bytes : Bytes) : Option Bytes :=
  if bytes.head? = some (Der.contextTag 1) then do
    Der.wholeBytes? (← Der.sole? Der.bitStringTag (← Der.sole? (Der.contextTag 1) bytes))
  else do Der.wholeBytes? (← Der.sole? (Der.plainContextTag 1) bytes)

def read? (bytes : Bytes) : Option WrappedKey := do
  let (version, rest) ← Der.takeSmall? (← Der.sole? Der.sequenceTag bytes)
  let (algorithm, rest) ← Der.take? Der.sequenceTag rest
  let (content, rest) ← Der.take? Der.octetStringTag rest
  let rest ← skipAttributes rest
  match version with
  | 0 => if rest.isEmpty then return ⟨algorithm, content, none⟩ else none
  | 1 => return ⟨algorithm, content, some (← readPublicKey? rest)⟩
  | _ => none

end WrappedKey
end OpticalAccess
