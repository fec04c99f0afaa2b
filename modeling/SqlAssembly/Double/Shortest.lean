import SqlAssembly.Double.Basic

/-! # The shortest decimal of a double

A finite double is written with the fewest decimal digits that read back as the same
double, and among those with the digits nearest to its value.  The reals that read back
as a value form an interval from halfway to its lower neighbour to halfway to its upper
neighbour; the two ends belong to it exactly when the significand is even.

For each number of digits, starting with one, the two decimals of that length next to
the value are tested against the interval, in exact arithmetic on naturals.  The first
length with a hit is the least one: if any decimal of a length lies in the interval, so
does one of the two next to the value.
-/

namespace SqlAssembly

structure Decimal where
  digits : Nat
  exponent : Int
  deriving DecidableEq, Repr

/-- Which of two decimals is chosen when both are equally near to the value. -/
inductive Tie where
  | even
  | upper
  deriving DecidableEq, Repr

namespace Decimal

def stripZeros : Nat → Decimal → Decimal
  | 0, d => d
  | limit + 1, d =>
    if d.digits ≠ 0 ∧ d.digits % 10 = 0 then stripZeros limit ⟨d.digits / 10, d.exponent + 1⟩
    else d

end Decimal

namespace Double

/-- The reals that read back as a positive double, and the double itself, all as
numerators over one denominator. -/
structure Neighbourhood where
  lower : Nat
  value : Nat
  upper : Nat
  den : Nat
  -- The two ends read back as the value too.
  closed : Bool

/-- The neighbourhood of `significand * 2 ^ exponent`.  Below a power of two the
neighbour is only half as far away as the one above, unless the exponent is the least. -/
def neighbourhood (significand : Nat) (exponent : Int) : Neighbourhood :=
  let (up, down) := powerOfTwo exponent
  let narrow := significand = Nat.pow 2 52 ∧ -1074 < exponent
  { lower := (4 * significand - if narrow then 1 else 2) * up
    value := 4 * significand * up
    upper := (4 * significand + 2) * up
    den := 4 * down
    closed := significand % 2 = 0 }

def Neighbourhood.contains (n : Neighbourhood) (digits : Nat) (exponent : Int) : Bool :=
  let scaled := digits * Nat.pow 10 exponent.toNat * n.den
  let lower := n.lower * Nat.pow 10 (-exponent).toNat
  let upper := n.upper * Nat.pow 10 (-exponent).toNat
  if n.closed then lower ≤ scaled && scaled ≤ upper else lower < scaled && scaled < upper

/-- The digits on the grid of `10 ^ exponent` that are to be written, if one of the two
decimals next to the value reads back. -/
def Neighbourhood.onGrid (n : Neighbourhood) (tie : Tie) (exponent : Int) : Option Nat :=
  let num := n.value * Nat.pow 10 (-exponent).toNat
  let den := n.den * Nat.pow 10 exponent.toNat
  let below := num / den
  match n.contains below exponent, n.contains (below + 1) exponent with
  | true, true =>
    let middle := (2 * below + 1) * den
    if 2 * num < middle then some below
    else if middle < 2 * num then some (below + 1)
    else match tie with
      | .even => some (below + below % 2)
      | .upper => some (below + 1)
  | true, false => some below
  | false, true => some (below + 1)
  | false, false => none

/-- The least `k` for which the value is less than `10 ^ k`.  The binary logarithm gives
an estimate that is off by less than two. -/
def Neighbourhood.scale (n : Neighbourhood) : Int :=
  let estimate := Int.fdiv (floorLog2 n.value n.den * 30103) 100000
  let fits (k : Int) : Bool :=
    n.value * Nat.pow 10 (-k).toNat < n.den * Nat.pow 10 k.toNat
  ([estimate - 1, estimate, estimate + 1].find? fits).getD (estimate + 2)

/-- The shortest decimal that reads back as `significand * 2 ^ exponent`.  Seventeen
digits are always enough; the exact value stands behind them so that the function is
total. -/
def shortest (tie : Tie) (significand : Nat) (exponent : Int) : Decimal :=
  if significand = 0 then ⟨0, 0⟩
  else
    let n := neighbourhood significand exponent
    let scale := n.scale
    let attempt (length : Nat) : Option Decimal :=
      (n.onGrid tie (scale - length)).map (⟨·, scale - length⟩)
    match (List.range' 1 17).findSome? attempt with
    | some d => d.stripZeros 18
    | none =>
      ⟨significand * Nat.pow 2 exponent.toNat * Nat.pow 5 (-exponent).toNat,
        -((-exponent).toNat : Int)⟩

end Double

end SqlAssembly
