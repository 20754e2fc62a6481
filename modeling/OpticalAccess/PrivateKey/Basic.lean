import OpticalAccess.Curve.Edwards
import OpticalAccess.Curve.Weierstrass
import OpticalAccess.Pem
import OpticalAccess.PrivateKey.Rsa
import OpticalAccess.PrivateKey.Wrapped

/-!
# Private keys

A private key is read together with its public key, with which it must agree. There are keys of RSA,
of two curves of Weierstrass' form, and of the Edwards curve.
-/

namespace OpticalAccess

/-- A private key, known by the public key that belongs to it. -/
structure PrivateKey where
  algorithm : Bytes
  publicKey : Bytes
  deriving DecidableEq, Repr

namespace PrivateKey

def publicKeyInfo (k : PrivateKey) : Bytes :=
  Der.write Der.sequenceTag k.algorithm ++ Der.writeBits k.publicKey

def ofRsa? (bytes : Bytes) : Option PrivateKey :=
  (Rsa.read? bytes).map fun key => ⟨Rsa.algorithm, key.publicKey⟩

def ellipticAlgorithm (c : Weierstrass.Curve) : Bytes :=
  Der.write Der.identifierTag [0x2A, 0x86, 0x48, 0xCE, 0x3D, 0x02, 0x01] ++ c.identifier

/-- Reads a multiplier and a point; the curve may be named between them. -/
def ofElliptic? (c : Weierstrass.Curve) (bytes : Bytes) : Option PrivateKey := do
  let (version, rest) ← Der.takeSmall? (← Der.sole? Der.sequenceTag bytes)
  if version ≠ 1 then none
  let (multiplier, rest) ← Der.take? Der.octetStringTag rest
  let rest ←
    if rest.head? = some (Der.contextTag 0) then do
      let (named, rest) ← Der.take? (Der.contextTag 0) rest
      if named = c.identifier then pure rest else none
    else pure rest
  let point ←
    Der.wholeBytes? (← Der.sole? Der.bitStringTag (← Der.sole? (Der.contextTag 1) rest))
  if c.belong multiplier point then return ⟨ellipticAlgorithm c, point⟩ else none

def edwardsAlgorithm : Bytes := Der.write Der.identifierTag [0x2B, 0x65, 0x70]

/-- Reads a seed; a public key that is given must be the one that belongs to it. -/
def ofEdwards? (wrapped : WrappedKey) : Option PrivateKey := do
  let seed ← Der.sole? Der.octetStringTag wrapped.content
  if seed.length ≠ 32 then none
  let publicKey := Edwards.publicKey seed
  if wrapped.publicKey.all (· = publicKey) then return ⟨edwardsAlgorithm, publicKey⟩ else none

/-- Reads a key from its envelope. Only a key on the Edwards curve may have the public key there. -/
def ofWrapped? (wrapped : WrappedKey) : Option PrivateKey :=
  if wrapped.algorithm = edwardsAlgorithm then ofEdwards? wrapped
  else if wrapped.publicKey.isSome then none
  else if wrapped.algorithm = Rsa.algorithm then ofRsa? wrapped.content
  else do
    let c ← Weierstrass.curves.find? fun c => wrapped.algorithm = ellipticAlgorithm c
    ofElliptic? c wrapped.content

def read? (kind : Pem.KeyKind) (bytes : Bytes) : Option PrivateKey :=
  match kind with
  | .general => do ofWrapped? (← WrappedKey.read? bytes)
  | .rsa => ofRsa? bytes
  | .elliptic => Weierstrass.curves.findSome? fun c => ofElliptic? c bytes

end PrivateKey
end OpticalAccess
