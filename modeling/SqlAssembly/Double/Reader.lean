import SqlAssembly.Double.Basic
import SqlAssembly.Text.Basic

/-! # Reading a double

The text of a floating-point number is an optional sign followed by digits with at most
one point among or around them and an optional exponent, or by one of the words `inf`,
`infinity` and `nan` in any case.  At least one digit must stand beside the point.
-/

namespace SqlAssembly

namespace Double

def readExponent? : List Char → Option Int
  | '-' :: digits => if isNumeral digits then some (-(Text.natOfDigits digits : Int)) else none
  | '+' :: digits => if isNumeral digits then some (Text.natOfDigits digits) else none
  | digits => if isNumeral digits then some (Text.natOfDigits digits) else none
where
  isNumeral (cs : List Char) : Bool := !cs.isEmpty && cs.all Char.isDigit

/-- The digits and the power of ten that scales them, for a number without a sign. -/
def readDecimal? (cs : List Char) : Option (Nat × Int) := do
  let (whole, rest) := cs.span Char.isDigit
  let (part, rest) :=
    match rest with
    | '.' :: more => more.span Char.isDigit
    | other => ([], other)
  if whole.isEmpty && part.isEmpty then none
  else
    let exponent ← match rest with
      | [] => some 0
      | 'e' :: more => readExponent? more
      | 'E' :: more => readExponent? more
      | _ => none
    return (Text.natOfDigits (whole ++ part), exponent - part.length)

def readUnsigned? (format : Format) (negative : Bool) (cs : List Char) : Option Double :=
  match String.ofList (cs.map Char.toLower) with
  | "inf" => some (.infinity negative)
  | "infinity" => some (.infinity negative)
  | "nan" => some .nan
  | _ => (readDecimal? cs).map fun (digits, exponent) => ofDecimal format negative digits exponent

/-- The value of a format that a text writes, rounded once from the exact decimal. -/
def read? (format : Format) (s : String) : Option Double :=
  match s.toList with
  | '-' :: cs => readUnsigned? format true cs
  | '+' :: cs => readUnsigned? format false cs
  | cs => readUnsigned? format false cs

end Double

end SqlAssembly
