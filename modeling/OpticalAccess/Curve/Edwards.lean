import OpticalAccess.Digest.Sha512
import OpticalAccess.Der
import OpticalAccess.Number.Modular

/-!
# The Edwards curve

The curve `y² - x² = 1 + d x² y²` over the field with `2 ^ 255 - 19` elements. A private key is a
seed, whose digest gives the multiplier of the base point. Points are held as `(x / z, y / z)`.
-/

namespace OpticalAccess.Edwards

def field : Nat := 0x7fffffffffffffffffffffffffffffffffffffffffffffffffffffffffffffed

def coefficient : Nat := 0x52036cee2b6ffe738cc740797779e89800700a4d4141d8ab75eb4dca135978a3

structure Point where
  x : Int
  y : Int
  z : Int
  deriving DecidableEq, Repr

def neutral : Point := ⟨0, 1, 1⟩

def base : Point :=
  ⟨0x216936d3cd6e53fec0a4e231fdd6dc5c692cc7609525a7b2c9562d608f25d51a,
    0x6666666666666666666666666666666666666666666666666666666666666658, 1⟩

def add (p q : Point) : Point :=
  let m : Int := field
  let zz := p.z * q.z % m
  let xx := p.x * q.x % m
  let yy := p.y * q.y % m
  let e := coefficient * xx * yy % m
  let f := zz * zz - e
  let g := zz * zz + e
  ⟨zz * f % m * (p.x * q.y + q.x * p.y) % m, zz * g % m * (yy + xx) % m, f * g % m⟩

/-- The multiple of a point, by doubling. -/
def mul (n : Nat) (p : Point) : Point :=
  if h : n = 0 then neutral
  else
    let even := mul (n / 2) (add p p)
    if n % 2 = 1 then add p even else even
termination_by n
decreasing_by omega

/-- The `count` digits of a number in base 256, lowest first. -/
def littleEndian : (count n : Nat) → Bytes
  | 0, _ => []
  | count + 1, n => UInt8.ofNat n :: littleEndian count (n / 256)

/-- The bytes of a point: its second coordinate, and the last bit of the first one on top. -/
def Point.bytes (p : Point) : Bytes :=
  let inverse := Modular.inverse field p.z.toNat
  let x := p.x.toNat * inverse % field
  let y := p.y.toNat * inverse % field
  littleEndian 32 (y + x % 2 * 0x8000000000000000000000000000000000000000000000000000000000000000)

/-- The multiplier that a seed stands for: the lower half of its digest, with some bits set. -/
def multiplier (seed : Bytes) : Nat :=
  let n := Der.value ((Sha512.digest seed).take 32).reverse
  let high := 0x4000000000000000000000000000000000000000000000000000000000000000
  high + n % high / 8 * 8

def publicKey (seed : Bytes) : Bytes := (mul (multiplier seed) base).bytes

end OpticalAccess.Edwards
