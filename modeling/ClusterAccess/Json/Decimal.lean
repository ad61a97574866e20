namespace ClusterAccess.Decimal

/-- The whole number nearest to a quotient, a tie going to the even neighbour. -/
def roundDiv (num den : Nat) : Nat :=
  let whole := num / den
  let twice := 2 * (num % den)
  if twice < den then whole
  else if den < twice then whole + 1
  else whole + whole % 2

/-- A quotient of natural numbers times a power of two, as a quotient. -/
def scaleTwo (num den : Nat) (power : Int) : Nat × Nat :=
  if 0 ≤ power then (num * Nat.pow 2 power.toNat, den) else (num, den * Nat.pow 2 (-power).toNat)

/-- A quotient of natural numbers times a power of ten, as a quotient. -/
def scaleTen (num den : Nat) (power : Int) : Nat × Nat :=
  if 0 ≤ power then (num * Nat.pow 10 power.toNat, den) else (num, den * Nat.pow 10 (-power).toNat)

/-- The double `m * 2 ^ q` nearest to a positive quotient, unless it is out of range. -/
def nearestOfRatio (num den : Nat) : Option (Nat × Int) :=
  let guess : Int := (num.log2 : Int) - (den.log2 : Int)
  let (n, d) := scaleTwo num den (-guess)
  let top := if d ≤ n then guess else guess - 1
  let q := max (top - 52) (-1074)
  let (n, d) := scaleTwo num den (-q)
  let m := roundDiv n d
  let (m, q) := if m = Nat.pow 2 53 then (Nat.pow 2 52, q + 1) else (m, q)
  if 971 < q then none else some (m, q)

/-- The double nearest to `digits * 10 ^ exponent`. The early answers keep the powers small. -/
def nearest (digits : Nat) (exponent : Int) : Option (Nat × Int) :=
  let size := (Nat.toDigits 10 digits).length
  if digits = 0 then some (0, -1074)
  else if 310 < exponent + size then none
  else if exponent + size < -330 then some (0, -1074)
  else
    let (n, d) := scaleTen digits 1 exponent
    nearestOfRatio n d

/-- A product of doubles, rounded, unless it is out of range. -/
def product? (a b : Nat × Int) : Option (Nat × Int) :=
  let (n, d) := scaleTwo (a.1 * b.1) 1 (a.2 + b.2)
  nearestOfRatio n d

/-- A quotient of doubles, rounded, unless it is out of range. -/
def quotient? (a b : Nat × Int) : Option (Nat × Int) :=
  let (n, d) := scaleTwo a.1 b.1 (a.2 - b.2)
  nearestOfRatio n d

/-- A double times a power of ten. The power is rounded and so is the result, and a power below
the range of a double is reached in steps. -/
def timesTen? (a : Nat × Int) (power : Int) : Option (Nat × Int) :=
  if a.1 = 0 then some a
  else if 308 < power then none
  else if 0 ≤ power then do product? a (← nearest 1 power)
  else if -308 ≤ power then do quotient? a (← nearest 1 (-power))
  else do timesTen? (← quotient? a (← nearest 1 308)) (power + 308)
termination_by power.natAbs
decreasing_by omega

/-- The first grid `10 ^ step`, going down, with a point among those that read as the double. -/
def shortestFrom (m : Nat) (q : Int) : Nat → Int → Nat × Int
  | 0, step => (0, step)
  | fuel + 1, step =>
    let lowGap := if m = Nat.pow 2 52 ∧ -1074 < q then 1 else 2
    let (one, den) := scaleTwo 1 1 (q - 2)
    let (unitNum, unitDen) := scaleTen one den (-step)
    let value := 4 * m * unitNum
    let reads (n : Nat) : Bool :=
      let low := (4 * m - lowGap) * unitNum
      let high := (4 * m + 2) * unitNum
      let point := n * unitDen
      if m % 2 = 0 then low ≤ point && point ≤ high else low < point && point < high
    let below := value / unitDen
    let near := roundDiv value unitDen
    let far := if near = below then below + 1 else below
    if 0 < near && reads near then (near, step)
    else if 0 < far && reads far then (far, step)
    else shortestFrom m q fuel (step - 1)

/-- The fewest digits, and among those the nearest, that read as the double `m * 2 ^ q`. -/
def shortest (m : Nat) (q : Int) : Nat × Int :=
  if m = 0 then (0, 0)
  else shortestFrom m q 40 (((m.log2 : Int) + q) * 30103 / 100000 + 2)

end ClusterAccess.Decimal
