import OpticalAccess.Der
import OpticalAccess.Number.Modular

/-!
# RSA keys

A key has a modulus, which is the product of two primes of half its length, a public and a private
exponent, the remainders of the private exponent, and the inverse of one prime modulo the other.
The numbers are looked at as far as that can be done without factoring or a test for primes.
-/

namespace OpticalAccess.Rsa

structure Factor where
  prime : Nat
  exponent : Nat
  deriving DecidableEq, Repr

structure Key where
  modulus : Nat
  publicExponent : Nat
  privateExponent : Nat
  first : Factor
  second : Factor
  inverse : Nat
  deriving DecidableEq, Repr

def bitLength (n : Nat) : Nat := if n = 0 then 0 else n.log2 + 1

def isOdd (n : Nat) : Bool := n % 2 = 1

/-- The modulus has 256 bytes at least and 4096 bits at most. -/
def isModulus (n : Nat) : Bool :=
  256 ≤ (bitLength n + 7) / 8 && bitLength n ≤ 4096 && isOdd n

/-- The public exponent is odd, at least 65537, and has 33 bits at most. -/
def isPublicExponent (e : Nat) : Bool := 65537 ≤ e && bitLength e ≤ 33 && isOdd e

/-- A factor of a modulus of some length has half of it, in whole groups of 512 bits. -/
def Factor.isFor (f : Factor) (length : Nat) : Bool :=
  bitLength f.prime % 512 = 0 && bitLength f.prime = (length + 1) / 2 && isOdd f.prime &&
    f.exponent < f.prime && isOdd f.exponent

namespace Key

def length (k : Key) : Nat := bitLength k.modulus

def isPrivateExponent (k : Key) : Bool :=
  (k.length + 1) / 2 < bitLength k.privateExponent && k.privateExponent < k.modulus &&
    isOdd k.privateExponent

/--
Whether the greater prime knows the inverse of the smaller one. If the second is the greater one,
what is given is not looked at, and an inverse is computed.
-/
def hasInverse (k : Key) : Bool :=
  if k.second.prime < k.first.prime then
    k.inverse < k.first.prime && k.inverse * k.second.prime % k.first.prime = 1
  else
    Modular.inverse k.second.prime k.first.prime * k.first.prime % k.second.prime = 1

def isSound (k : Key) : Bool :=
  isModulus k.modulus && isPublicExponent k.publicExponent &&
    k.first.isFor k.length && k.second.isFor k.length &&
    k.first.prime * k.second.prime % k.modulus = 0 && k.isPrivateExponent && k.hasInverse

end Key

def takeNumbers : (count : Nat) → Bytes → Option (List Nat × Bytes)
  | 0, bytes => some ([], bytes)
  | count + 1, bytes => do
    let (digits, rest) ← Der.takeDigits? bytes
    let (numbers, rest) ← takeNumbers count rest
    return (Der.value digits :: numbers, rest)

def read? (bytes : Bytes) : Option Key := do
  let (version, rest) ← Der.takeSmall? (← Der.sole? Der.sequenceTag bytes)
  if version ≠ 0 then none
  match ← takeNumbers 8 rest with
  | ([n, e, d, p, q, dp, dq, inverse], []) =>
    let key : Key := ⟨n, e, d, ⟨p, dp⟩, ⟨q, dq⟩, inverse⟩
    if key.isSound then return key else none
  | _ => none

/-- The digits of a number in base 256, highest first. -/
def digits (n : Nat) : Bytes :=
  if _h : n < 256 then [UInt8.ofNat n] else digits (n / 256) ++ [UInt8.ofNat n]

def Key.publicKey (k : Key) : Bytes :=
  Der.write Der.sequenceTag
    (Der.writeDigits (digits k.modulus) ++ Der.writeDigits (digits k.publicExponent))

/-- The algorithm, which has no parameters. -/
def algorithm : Bytes :=
  Der.write Der.identifierTag [0x2A, 0x86, 0x48, 0x86, 0xF7, 0x0D, 0x01, 0x01, 0x01] ++
    Der.write Der.nullTag []

end OpticalAccess.Rsa
