import SqlAssembly.Double.Shortest
import SqlAssembly.Text.Basic

/-! # Writing a double

`Layout` collects the decisions that a written form of a double makes once the digits
are known: between which magnitudes the point is written in place, whether a whole number
keeps a point, and how an exponent looks.  `Layout.render` lays the digits out.

Three forms are in use:

* `Layout.literal` — SQL literals and plain text: never an exponent, no point after a
  whole number;
* `Layout.shown` — values shown inside messages;
* `Layout.json` — JSON numbers.
-/

namespace SqlAssembly

namespace Double

structure Layout where
  tie : Tie
  -- The exponents of the leading digit that are written in place, from the first up to
  -- but without the second; without a range every number is.
  inPlace : Option (Int × Int)
  -- A whole number written in place ends in `.0`.
  pointZero : Bool
  -- An exponent that is not negative has a plus sign.
  plusSign : Bool
  deriving DecidableEq, Repr

/-- SQL literals and plain text. -/
def Layout.literal : Layout := ⟨.upper, none, false, false⟩

/-- Values shown inside messages. -/
def Layout.shown : Layout := ⟨.upper, some (-4, 16), true, false⟩

def Layout.json : Layout := ⟨.even, some (-5, 16), true, true⟩

/-- The digits with the point in its place: after them, inside them or before them. -/
def Layout.positional (layout : Layout) (digits : List Char) (exponent : Int) : List Char :=
  let whole := digits ++ List.replicate exponent.toNat '0'
  let places := (-exponent).toNat
  if places = 0 then
    if layout.pointZero then whole ++ ['.', '0'] else whole
  else if places < digits.length then
    digits.take (digits.length - places) ++ '.' :: digits.drop (digits.length - places)
  else
    '0' :: '.' :: List.replicate (places - digits.length) '0' ++ digits

def Layout.scientific (layout : Layout) (digits : List Char) (leading : Int) : List Char :=
  let mantissa :=
    match digits with
    | first :: second :: rest => first :: '.' :: second :: rest
    | short => short
  let sign := if leading < 0 then ['-'] else if layout.plusSign then ['+'] else []
  mantissa ++ 'e' :: sign ++ Nat.toDigits 10 leading.natAbs

def Layout.decimal (layout : Layout) (d : Decimal) : List Char :=
  let digits := Nat.toDigits 10 d.digits
  let leading : Int := d.exponent + (digits.length - 1 : Nat)
  match layout.inPlace with
  | none => layout.positional digits d.exponent
  | some (first, last) =>
    if d.digits = 0 ∨ (first ≤ leading ∧ leading < last) then layout.positional digits d.exponent
    else layout.scientific digits leading

def Layout.render (layout : Layout) : Double → String
  | .nan => "NaN"
  | .infinity false => "inf"
  | .infinity true => "-inf"
  | .finite negative significand exponent =>
    let unsigned := layout.decimal (shortest layout.tie significand exponent)
    String.ofList (if negative then '-' :: unsigned else unsigned)

end Double

end SqlAssembly
