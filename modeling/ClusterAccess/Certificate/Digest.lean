import ClusterAccess.Certificate.Der

namespace ClusterAccess.Digest

def isPrime (n : Nat) : Bool :=
  2 ≤ n && (List.range n).all fun d => d < 2 || n % d ≠ 0

def primes : List Nat :=
  (List.range 410).filter isPrime

/-- The greatest number whose power is no more than `n`, which has less than 72 bits. -/
def root (degree n : Nat) : Nat :=
  (List.range 72).foldr (fun i m =>
    let next := m + Nat.pow 2 i
    if Nat.pow next degree ≤ n then next else m) 0

/-- 64 bits behind the point of a root. -/
def fraction (degree n : Nat) : UInt64 :=
  UInt64.ofNat (root degree (n * Nat.pow 2 (64 * degree)))

structure State where
  a : UInt64
  b : UInt64
  c : UInt64
  d : UInt64
  e : UInt64
  f : UInt64
  g : UInt64
  h : UInt64

namespace State

def ofWords : List UInt64 → State
  | [a, b, c, d, e, f, g, h] => ⟨a, b, c, d, e, f, g, h⟩
  | _ => ⟨0, 0, 0, 0, 0, 0, 0, 0⟩

def words (s : State) : List UInt64 :=
  [s.a, s.b, s.c, s.d, s.e, s.f, s.g, s.h]

end State

/-- Binary digits behind the point of the square roots of the first primes. -/
def initial : State :=
  State.ofWords ((primes.take 8).map (fraction 2))

/-- Binary digits behind the point of the cube roots of the first primes. -/
def roundConstants : List UInt64 :=
  primes.map (fraction 3)

def rotate (w : UInt64) (n : UInt64) : UInt64 :=
  (w >>> n) ||| (w <<< (64 - n))

/-- The next word from those before it, the last one first. -/
def nextWord (back : List UInt64) : UInt64 :=
  let (u, v) := (back.getD 14 0, back.getD 1 0)
  back.getD 15 0 + (rotate u 1 ^^^ rotate u 8 ^^^ (u >>> 7))
    + back.getD 6 0 + (rotate v 19 ^^^ rotate v 61 ^^^ (v >>> 6))

/-- As many more words as asked for. -/
def extend : Nat → List UInt64 → List UInt64
  | 0, back => back
  | n + 1, back => extend n (nextWord back :: back)

def round (s : State) (constant word : UInt64) : State :=
  let choice := (s.e &&& s.f) ^^^ (~~~s.e &&& s.g)
  let majority := (s.a &&& s.b) ^^^ (s.a &&& s.c) ^^^ (s.b &&& s.c)
  let t := s.h + (rotate s.e 14 ^^^ rotate s.e 18 ^^^ rotate s.e 41) + choice + constant + word
  let u := (rotate s.a 28 ^^^ rotate s.a 34 ^^^ rotate s.a 39) + majority
  ⟨t + u, s.a, s.b, s.c, s.d + t, s.e, s.f, s.g⟩

/-- Pieces of one length, the last one if it is whole. -/
def pieces (width : Nat) (bytes : Bytes) : List Bytes :=
  (List.range (bytes.length / width)).map fun i => (bytes.drop (width * i)).take width

def wordsOf (block : Bytes) : List UInt64 :=
  (pieces 8 block).map fun word => UInt64.ofNat (Der.number word)

def compress (s : State) (block : Bytes) : State :=
  let schedule := (extend 64 (wordsOf block).reverse).reverse
  let last := (roundConstants.zip schedule).foldl (fun s p => round s p.1 p.2) s
  State.ofWords (List.zipWith (· + ·) s.words last.words)

/-- A one bit, zeros, and the length in bits fill the last block. -/
def padded (message : Bytes) : Bytes :=
  let zeros := (128 - (message.length + 17) % 128) % 128
  message ++ 0x80 :: List.replicate zeros 0 ++ Der.fixed 16 (8 * message.length)

def ofBytes (message : Bytes) : Bytes :=
  ((pieces 128 (padded message)).foldl compress initial).words.flatMap
    fun word => Der.fixed 8 word.toNat

end ClusterAccess.Digest
