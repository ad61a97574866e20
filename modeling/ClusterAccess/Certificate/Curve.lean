import ClusterAccess.Certificate.Der

namespace ClusterAccess.Residue

/-- The bits of a number, the highest first. -/
def bits (n : Nat) : List Bool :=
  (Nat.toDigits 2 n).map (· = '1')

def reduce (modulus : Nat) (n : Int) : Int :=
  n % modulus

/-- A power, squared and multiplied bit by bit. -/
def power (modulus : Nat) (base : Int) (n : Nat) : Int :=
  (bits n).foldl (fun a bit =>
    let square := reduce modulus (a * a)
    if bit then reduce modulus (square * base) else square) 1

/-- What gives one when multiplied, since the power of one less than a prime does. -/
def inverse (prime : Nat) (n : Int) : Int :=
  power prime n (prime - 2)

end ClusterAccess.Residue

namespace ClusterAccess

/-- The curve `y² = x³ - 3x + b` over a prime field, and a base point on it. -/
structure Curve where
  identifier : Bytes
  /-- The bytes of a coordinate. -/
  width : Nat
  prime : Nat
  order : Nat
  baseX : Nat
  baseY : Nat

namespace Curve

/-- A point `(x / z², y / z³)`; the point at infinity has no `z`. -/
structure Point where
  x : Int
  y : Int
  z : Int

variable (c : Curve)

def reduce (n : Int) : Int :=
  Residue.reduce c.prime n

def double (p : Point) : Point :=
  let delta := c.reduce (p.z * p.z)
  let gamma := c.reduce (p.y * p.y)
  let beta := c.reduce (p.x * gamma)
  let alpha := c.reduce (3 * (p.x - delta) * (p.x + delta))
  let x := c.reduce (alpha * alpha - 8 * beta)
  { x
    y := c.reduce (alpha * (4 * beta - x) - 8 * gamma * gamma)
    z := c.reduce (2 * p.y * p.z) }

/-- The base point and another one. -/
def addBase (p : Point) : Point :=
  if p.z = 0 then ⟨c.baseX, c.baseY, 1⟩
  else
    let square := c.reduce (p.z * p.z)
    let h := c.reduce (c.baseX * square - p.x)
    let r := c.reduce (c.baseY * square * p.z - p.y)
    if h = 0 then if r = 0 then c.double p else ⟨1, 1, 0⟩
    else
      let hh := c.reduce (h * h)
      let v := c.reduce (p.x * hh)
      let x := c.reduce (r * r - hh * h - 2 * v)
      { x, y := c.reduce (r * (v - x) - p.y * hh * h), z := c.reduce (p.z * h) }

/-- A multiple of the base point. -/
def multiple (n : Nat) : Point :=
  (Residue.bits n).foldl
    (fun p bit => if bit then c.addBase (c.double p) else c.double p) ⟨1, 1, 0⟩

/-- What a point is written as: both coordinates behind a mark, or the first one and whether the
second is odd, or both ways at once. -/
structure Encodings where
  whole : Bytes
  short : Bytes
  mixed : Bytes

def encode (p : Point) : Encodings :=
  let inverse := Residue.inverse c.prime p.z
  let square := c.reduce (inverse * inverse)
  let y := (c.reduce (p.y * square * inverse)).toNat
  let (first, second) := (Der.fixed c.width (c.reduce (p.x * square)).toNat, Der.fixed c.width y)
  { whole := 0x04 :: first ++ second
    short := UInt8.ofNat (2 + y % 2) :: first
    mixed := UInt8.ofNat (6 + y % 2) :: first ++ second }

/-- The public key of a private one, which is less than the order and not zero. -/
def publicKey? (secret : Nat) : Option Encodings :=
  if 0 < secret && secret < c.order then some (c.encode (c.multiple secret)) else none

end Curve

def Curve.p256 : Curve where
  identifier := [0x2a, 0x86, 0x48, 0xce, 0x3d, 0x03, 0x01, 0x07]
  width := 32
  prime := 0xffffffff00000001000000000000000000000000ffffffffffffffffffffffff
  order := 0xffffffff00000000ffffffffffffffffbce6faada7179e84f3b9cac2fc632551
  baseX := 0x6b17d1f2e12c4247f8bce6e563a440f277037d812deb33a0f4a13945d898c296
  baseY := 0x4fe342e2fe1a7f9b8ee7eb4a7c0f9e162bce33576b315ececbb6406837bf51f5

def Curve.p384 : Curve where
  identifier := [0x2b, 0x81, 0x04, 0x00, 0x22]
  width := 48
  prime := 0xfffffffffffffffffffffffffffffffffffffffffffffffffffffffffffffffeffffffff0000000000000000ffffffff
  order := 0xffffffffffffffffffffffffffffffffffffffffffffffffc7634d81f4372ddf581a0db248b0a77aecec196accc52973
  baseX := 0xaa87ca22be8b05378eb1c71ef320ad746e1d3b628ba79b9859f741e082542a385502f25dbf55296c3a545e3872760ab7
  baseY := 0x3617de4a96262c6f5d9e98bf9292dc29f8f41dbd289a147ce9da3113b5f0b8c00a60b1ce1d7e819d7a431d7c90ea0e5f

/-- The order's upper half has all bits set. -/
def Curve.p521 : Curve where
  identifier := [0x2b, 0x81, 0x04, 0x00, 0x23]
  width := 66
  prime := Nat.pow 2 521 - 1
  order := (Nat.pow 2 261 - 1) * Nat.pow 2 260
    + 0xa51868783bf2f966b7fcc0148f709a5d03bb5c9b8899c47aebb6fb71e91386409
  baseX := 0xc6858e06b70404e9cd9e3ecb662395b4429c648139053fb521f828af606b4d3dbaa14b5e77efe75928fe1dc127a2ffa8de3348b3c1856a429bf97e7e31c2e5bd66
  baseY := 0x11839296a789a3bc0045c8a5fb42c7d1bd998f54449579b446817afbd17273e662c97ee72995ef42640c550b9013fad0761353c7086a272c24088be94769fd16650

end ClusterAccess
