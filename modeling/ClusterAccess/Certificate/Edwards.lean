import ClusterAccess.Certificate.Curve
import ClusterAccess.Certificate.Digest

namespace ClusterAccess.Edwards

def prime : Nat :=
  Nat.pow 2 255 - 19

def reduce (n : Int) : Int :=
  Residue.reduce prime n

/-- The coefficient `d` of the curve `y² - x² = 1 + d x² y²`. -/
def coefficient : Int :=
  reduce (-121665 * Residue.inverse prime 121666)

/-- A point `(x / z, y / z)`, and `t = x y / z`. -/
structure Point where
  x : Int
  y : Int
  z : Int
  t : Int

def identity : Point :=
  ⟨0, 1, 1, 0⟩

def ofCoordinates (x y : Int) : Point :=
  ⟨x, y, 1, reduce (x * y)⟩

/-- The point with `y = 4 / 5` and an even `x`. -/
def base : Point :=
  ofCoordinates 15112221349535400772501151409588531511454012693041857206046113283949847762202
    46316835694926478169428394003475163141307993866256225615783033603165251855960

/-- One rule adds any two points. -/
def add (p q : Point) : Point :=
  let a := reduce ((p.y - p.x) * (q.y - q.x))
  let b := reduce ((p.y + p.x) * (q.y + q.x))
  let c := reduce (2 * p.t * q.t * coefficient)
  let d := reduce (2 * p.z * q.z)
  let (e, f, g, h) := (b - a, d - c, d + c, b + a)
  ⟨reduce (e * f), reduce (g * h), reduce (f * g), reduce (e * h)⟩

def multiple (n : Nat) : Point :=
  (Residue.bits n).foldl (fun p bit => if bit then add base (add p p) else add p p) identity

/-- The lowest byte of `y` comes first; the highest bit says whether `x` is odd. -/
def encode (p : Point) : Bytes :=
  let inverse := Residue.inverse prime p.z
  let (x, y) := ((reduce (p.x * inverse)).toNat, (reduce (p.y * inverse)).toNat)
  (Der.fixed 32 (y + x % 2 * Nat.pow 2 255)).reverse

/-- The multiple that a secret stands for: a multiple of eight between `2²⁵⁴` and `2²⁵⁵`. -/
def multiplier (secret : Bytes) : Nat :=
  let n := Der.number ((Digest.ofBytes secret).take 32).reverse
  Nat.pow 2 254 + n % Nat.pow 2 254 / 8 * 8

def publicKey? (secret : Bytes) : Option Bytes :=
  if secret.length = 32 then some (encode (multiple (multiplier secret))) else none

end ClusterAccess.Edwards
