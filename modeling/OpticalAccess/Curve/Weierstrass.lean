import OpticalAccess.Der

/-!
# Elliptic curves with a public key on them

The curves `y² = x³ - 3x + b` over a field of prime order, with a base point of prime order. A
private key is a multiplier of the base point, the public key is the multiple. Points are held as
`(x / z², y / z³)`; the point at infinity has `z = 0`.
-/

namespace OpticalAccess.Weierstrass

structure Point where
  x : Int
  y : Int
  z : Int
  deriving DecidableEq, Repr

structure Curve where
  /-- The bytes of a coordinate and of a multiplier. -/
  width : Nat
  field : Int
  order : Nat
  base : Point
  identifier : Bytes

def infinity : Point := ⟨1, 1, 0⟩

namespace Curve

variable (c : Curve)

def double (p : Point) : Point :=
  let zz := p.z * p.z % c.field
  let yy := p.y * p.y % c.field
  let s := 4 * p.x * yy % c.field
  let slope := 3 * (p.x - zz) * (p.x + zz) % c.field
  let x := (slope * slope - 2 * s) % c.field
  ⟨x, (slope * (s - x) - 8 * yy * yy) % c.field, 2 * p.y * p.z % c.field⟩

def add (p q : Point) : Point :=
  if p.z = 0 then q
  else if q.z = 0 then p
  else
    let pzz := p.z * p.z % c.field
    let qzz := q.z * q.z % c.field
    let u := p.x * qzz % c.field
    let s := p.y * qzz * q.z % c.field
    let h := (q.x * pzz - u) % c.field
    let r := (q.y * pzz * p.z - s) % c.field
    if h = 0 then if r = 0 then c.double p else infinity
    else
      let hh := h * h % c.field
      let hhh := h * hh % c.field
      let x := (r * r - hhh - 2 * u * hh) % c.field
      ⟨x, (r * (u * hh - x) - s * hhh) % c.field, h * p.z * q.z % c.field⟩

/-- The multiple of a point, by doubling. -/
def mul (n : Nat) (p : Point) : Point :=
  if h : n = 0 then infinity
  else
    let even := mul (n / 2) (c.double p)
    if n % 2 = 1 then c.add p even else even
termination_by n
decreasing_by omega

def writes (bytes : Bytes) (p : Point) : Bool :=
  match bytes with
  | 0x04 :: coordinates =>
    let x : Int := Der.value (coordinates.take c.width)
    let y : Int := Der.value (coordinates.drop c.width)
    coordinates.length = 2 * c.width && x < c.field && y < c.field && p.z ≠ 0 &&
      (x * p.z * p.z - p.x) % c.field = 0 && (y * p.z * p.z * p.z - p.y) % c.field = 0
  | _ => false

def isMultiplier (bytes : Bytes) : Bool :=
  bytes.length = c.width && 0 < Der.value bytes && Der.value bytes < c.order

def belong (multiplier point : Bytes) : Bool :=
  c.isMultiplier multiplier && c.writes point (c.mul (Der.value multiplier) c.base)

end Curve

def p256 : Curve where
  width := 32
  field := 0xffffffff00000001000000000000000000000000ffffffffffffffffffffffff
  order := 0xffffffff00000000ffffffffffffffffbce6faada7179e84f3b9cac2fc632551
  base :=
    ⟨0x6b17d1f2e12c4247f8bce6e563a440f277037d812deb33a0f4a13945d898c296,
      0x4fe342e2fe1a7f9b8ee7eb4a7c0f9e162bce33576b315ececbb6406837bf51f5, 1⟩
  identifier := [0x06, 0x08, 0x2A, 0x86, 0x48, 0xCE, 0x3D, 0x03, 0x01, 0x07]

def joined (high low : Nat) : Nat :=
  high * 0x1000000000000000000000000000000000000000000000000 + low

def p384 : Curve where
  width := 48
  field :=
    joined 0xffffffffffffffffffffffffffffffffffffffffffffffff
      0xfffffffffffffffeffffffff0000000000000000ffffffff
  order :=
    joined 0xffffffffffffffffffffffffffffffffffffffffffffffff
      0xc7634d81f4372ddf581a0db248b0a77aecec196accc52973
  base :=
    ⟨joined 0xaa87ca22be8b05378eb1c71ef320ad746e1d3b628ba79b98
        0x59f741e082542a385502f25dbf55296c3a545e3872760ab7,
      joined 0x3617de4a96262c6f5d9e98bf9292dc29f8f41dbd289a147c
        0xe9da3113b5f0b8c00a60b1ce1d7e819d7a431d7c90ea0e5f,
      1⟩
  identifier := [0x06, 0x05, 0x2B, 0x81, 0x04, 0x00, 0x22]

def curves : List Curve := [p256, p384]

end OpticalAccess.Weierstrass
