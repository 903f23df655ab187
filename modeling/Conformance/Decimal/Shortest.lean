/-!
# Shortest decimal digits of a binary64 value

A finite binary64 value stands for the interval of reals that round to it.  The
digits written for it are those of the decimal with the fewest significant digits in
that interval; of two such decimals the nearer one is taken, and an exact tie goes by
the rule that the caller names.

The search is the specification turned into a loop: for one, two, … seventeen digits
it looks at the two neighbours of the value on the grid of that many digits, in exact
natural-number arithmetic.
-/

namespace Conformance

namespace Decimal

/-- A finite non-negative binary64 magnitude, `m * 2^q`. -/
structure Binary where
  m : Nat
  q : Int
  /-- The gap to the value below is half the gap to the value above: `m` is the
  smallest significand of a binade other than the lowest. -/
  narrowBelow : Bool

/-- The magnitude of a finite value, read off its bits (the sign bit is ignored). -/
def Binary.ofBits (b : UInt64) : Binary :=
  let e := ((b >>> 52) &&& 0x7FF).toNat
  let f := (b &&& 0xFFFFFFFFFFFFF).toNat
  if e == 0 then ⟨f, -1074, false⟩ else ⟨Nat.pow 2 52 + f, (e : Int) - 1075, f == 0 && e > 1⟩

/-- A decimal `digits * 10^exp`. -/
structure Dec where
  digits : Nat
  exp : Int
deriving Repr, DecidableEq, Inhabited

/-- How an exact tie between two equally near candidates is broken. -/
inductive Tie where
  /-- The candidate whose last digit is even. -/
  | toEven
  /-- The candidate of larger magnitude. -/
  | up
deriving Repr, DecidableEq

/-- Compares `a * 10^i` with `n * 2^j`, exactly. -/
def cmpScaled (a : Nat) (i : Int) (n : Nat) (j : Int) : Ordering :=
  compare (a * Nat.pow 10 i.toNat * Nat.pow 2 (-j).toNat)
    (n * Nat.pow 2 j.toNat * Nat.pow 10 (-i).toNat)

/-- The decimal `d` lies among the reals that round to `x` (to nearest, ties to even):
strictly between the two half-way points, or on one of them when `m` is even. -/
def Binary.readsBack (x : Binary) (d : Dec) : Bool :=
  let lo := if x.narrowBelow then 4 * x.m - 1 else 4 * x.m - 2
  let hi := 4 * x.m + 2
  let incl := x.m % 2 == 0
  let cl := cmpScaled d.digits d.exp lo (x.q - 2)
  let ch := cmpScaled d.digits d.exp hi (x.q - 2)
  (cl == .gt || (incl && cl == .eq)) && (ch == .lt || (incl && ch == .eq))

/-- The value is below `10^k`. -/
def Binary.below (x : Binary) (k : Int) : Bool :=
  cmpScaled 1 k x.m x.q == .gt

/-- Moves a guess `k` for the scale by single steps until `10^(k-1) ≤ x < 10^k`. -/
def Binary.settleScale (x : Binary) : Nat → Int → Int
  | 0, k => k
  | fuel + 1, k =>
    if !x.below k then x.settleScale fuel (k + 1)
    else if x.below (k - 1) then x.settleScale fuel (k - 1)
    else k

/-- The least `k` with `x < 10^k`, for a non-zero `x`: estimated from the binary
logarithm (`log10 2 ≈ 0.30103`) and corrected by exact comparisons. -/
def Binary.scale (x : Binary) : Int :=
  let bits : Int := (Nat.log2 x.m : Int) + x.q + 1
  x.settleScale 8 (bits * 30103 / 100000)

/-- The value on the grid `10^g`, as numerator and denominator of `x / 10^g`. -/
def Binary.onGrid (x : Binary) (g : Int) : Nat × Nat :=
  (x.m * Nat.pow 2 x.q.toNat * Nat.pow 10 (-g).toNat, Nat.pow 2 (-x.q).toNat * Nat.pow 10 g.toNat)

/-- Removes trailing zeros of the digits into the exponent. -/
def Dec.normalize (d : Dec) : Dec :=
  go d.digits.log2.succ d
where
  go : Nat → Dec → Dec
    | 0, d => d
    | fuel + 1, d =>
      if d.digits != 0 && d.digits % 10 == 0 then go fuel ⟨d.digits / 10, d.exp + 1⟩ else d

/-- The candidate on the grid `10^g` that reads back, if any: of the two neighbours of
the value the one that reads back, or the nearer if both do, with `tie` deciding an
exact tie. -/
def Binary.onGridCandidate (x : Binary) (tie : Tie) (g : Int) : Option Dec :=
  let (num, den) := x.onGrid g
  let c := num / den
  let lower : Dec := ⟨c, g⟩
  let upper : Dec := ⟨c + 1, g⟩
  match x.readsBack lower, x.readsBack upper with
  | true, true =>
    -- twice the value against the sum of the two candidates
    match compare (2 * num) ((2 * c + 1) * den) with
    | .lt => some lower
    | .gt => some upper
    | .eq =>
      match tie with
      | .toEven => some (if c % 2 == 0 then lower else upper)
      | .up => some upper
  | true, false => some lower
  | false, true => some upper
  | false, false => none

/-- The exact decimal value of `m * 2^q`. -/
def Binary.exact (x : Binary) : Dec :=
  if x.q ≥ 0 then ⟨x.m * Nat.pow 2 x.q.toNat, 0⟩
  else ⟨x.m * Nat.pow 5 (-x.q).toNat, x.q⟩

/-- The shortest decimal that reads back as `x`, the nearest of those, with `tie`
deciding between two equally near ones.  Zero is `0 * 10^0`. -/
def Binary.shortest (x : Binary) (tie : Tie) : Dec :=
  if x.m = 0 then ⟨0, 0⟩
  else
    let k := x.scale
    match (List.range 17).findSome? (fun n => x.onGridCandidate tie (k - (n + 1 : Nat))) with
    | some d => d.normalize
    | none => x.exact.normalize

/-- The exact value of a finite binary64 value that is a whole number, with its sign;
`none` for a fraction, NaN or an infinity.  Negative zero is `0`. -/
def integralValue? (x : Float) : Option Int :=
  if x.isNaN || x.isInf then none
  else
    let b := Binary.ofBits x.toBits
    let negative := (x.toBits >>> 63) == 1
    let magnitude : Option Nat :=
      if b.q ≥ 0 then some (b.m * Nat.pow 2 b.q.toNat)
      else if b.m % Nat.pow 2 (-b.q).toNat == 0 then some (b.m / Nat.pow 2 (-b.q).toNat)
      else none
    magnitude.map fun n => if negative then -(n : Int) else n

end Decimal

end Conformance
