/-! # Binary floating-point numbers

A number of the SQL type *double* is a value of the binary64 format.  `Double` says what
such a value is — not a number, an infinity, or a signed significand scaled by a power
of two — rather than how its bits are laid out, because the library only reads and
writes these numbers and does hardly any arithmetic on them.

* `Format.binary64`, `Format.binary32` — the two formats that are read.
* `Double.ofRatio` — the value of a format that is nearest to a quotient of naturals;
  every other way to make a `Double` goes through it.
-/

namespace SqlAssembly

/-- A binary floating-point value.  The finite value is `significand * 2 ^ exponent`,
negated when `negative` holds, so zero keeps a sign. -/
inductive Double where
  | nan
  | infinity (negative : Bool)
  | finite (negative : Bool) (significand : Nat) (exponent : Int)
  deriving DecidableEq, Repr

namespace Double

structure Format where
  digits : Nat
  leastExponent : Int
  greatestExponent : Int
  deriving DecidableEq, Repr

def Format.binary64 : Format := ⟨53, -1074, 971⟩

def Format.binary32 : Format := ⟨24, -149, 104⟩

def powerOfTwo (e : Int) : Nat × Nat :=
  (Nat.pow 2 e.toNat, Nat.pow 2 (-e).toNat)

/-- The integer nearest to `num / den`; of two equally near ones the even one. -/
def roundToEven (num den : Nat) : Nat :=
  let quotient := num / den
  let twice := 2 * (num % den)
  if twice < den then quotient
  else if den < twice then quotient + 1
  else quotient + quotient % 2

/-- The greatest exponent `e` with `2 ^ e ≤ num / den`, for a quotient that is not zero. -/
def floorLog2 (num den : Nat) : Int :=
  let estimate : Int := (Nat.log2 num : Int) - (Nat.log2 den : Int)
  let (up, down) := powerOfTwo estimate
  if up * den ≤ num * down then estimate else estimate - 1

/-- The value of a format nearest to `num / den`, ties to an even significand.  A
quotient beyond the greatest finite value gives an infinity, one below half of the least
positive value gives a zero. -/
def ofRatio (format : Format) (negative : Bool) (num den : Nat) : Double :=
  if num = 0 ∨ den = 0 then .finite negative 0 format.leastExponent
  else
    let exponent := max (floorLog2 num den - (format.digits - 1)) format.leastExponent
    let (up, down) := powerOfTwo exponent
    let significand := roundToEven (num * down) (den * up)
    let (significand, exponent) :=
      if significand = Nat.pow 2 format.digits then (Nat.pow 2 (format.digits - 1), exponent + 1)
      else (significand, exponent)
    if format.greatestExponent < exponent then .infinity negative
    else .finite negative significand exponent

/-- The value of a format nearest to `digits * 10 ^ exponent`.  A number that is far out
of the format's range is settled by its magnitude alone. -/
def ofDecimal (format : Format) (negative : Bool) (digits : Nat) (exponent : Int) : Double :=
  let magnitude : Int := exponent + (Nat.toDigits 10 digits).length
  if digits = 0 ∨ magnitude < -400 then .finite negative 0 format.leastExponent
  else if 400 < magnitude then .infinity negative
  else ofRatio format negative (digits * Nat.pow 10 exponent.toNat)
    (Nat.pow 10 (-exponent).toNat)

def ofInt (n : Int) : Double :=
  ofRatio .binary64 (n < 0) n.natAbs 1

def fraction (significand : Nat) (exponent : Int) : Nat × Nat :=
  let (up, down) := powerOfTwo exponent
  (significand * up, down)

def widened : Double → Double
  | .finite negative significand exponent =>
    let (num, den) := fraction significand exponent
    ofRatio .binary64 negative num den
  | other => other

/-- The double nearest to a power of ten, as a fraction.  It is exact up to `10 ^ 22`. -/
def powerOfTen (power : Nat) : Nat × Nat :=
  match ofRatio .binary64 false (Nat.pow 10 power) 1 with
  | .finite _ significand exponent => fraction significand exponent
  | _ => (Nat.pow 10 power, 1)

def timesPowerOfTen (power : Nat) : Double → Double
  | .finite negative significand exponent =>
    let (num, den) := fraction significand exponent
    let (up, down) := powerOfTen power
    ofRatio .binary64 negative (num * up) (den * down)
  | other => other

def overPowerOfTen (power : Nat) : Double → Double
  | .finite negative significand exponent =>
    let (num, den) := fraction significand exponent
    let (up, down) := powerOfTen power
    ofRatio .binary64 negative (num * down) (den * up)
  | other => other

def toInt? : Double → Option Int
  | .finite negative significand exponent =>
    let (num, den) := fraction significand exponent
    if num % den = 0 then
      let magnitude : Int := num / den
      some (if negative then -magnitude else magnitude)
    else none
  | _ => none

end Double

end SqlAssembly
