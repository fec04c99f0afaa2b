import SqlAssembly.Json.Basic
import SqlAssembly.Text.Quoted

/-! # Scalars

A scalar is a value that a statement can bind to one placeholder.

* `Scalar.literal` — the scalar as an SQL literal, quoted and escaped.
* `Scalar.plain` — the bare text, which raw and identifier options put into a statement.
* `Scalar.shown` — the form used inside messages.
* `Scalar.json` — the form used for rows and parameter lists.
-/

namespace SqlAssembly

inductive Scalar where
  | null
  | bool (b : Bool)
  | int (n : Int)
  | float (x : Double)
  | text (s : String)
  | blob (bytes : List UInt8)
  deriving DecidableEq, Repr

namespace Scalar

def upperHex (bytes : List UInt8) : String :=
  String.ofList ((bytes.flatMap Text.hexByte).map Char.toUpper)

/-- The scalar as an SQL literal.  A quote inside a text is written twice, so the literal
ends only where the text does. -/
def literal : Scalar → String
  | .null => "NULL"
  | .bool true => "TRUE"
  | .bool false => "FALSE"
  | .int n => Text.ofInt n
  | .float x => Double.Layout.literal.render x
  | .text s => "'" ++ Text.doubleChar '\'' s ++ "'"
  | .blob bytes => "X'" ++ upperHex bytes ++ "'"

/-- The scalar as bare text: a text is itself, everything else is its literal. -/
def plain : Scalar → String
  | .text s => s
  | other => other.literal

def isNumeric : Scalar → Bool
  | .int _ => true
  | .float _ => true
  | _ => false

def isNull : Scalar → Bool
  | .null => true
  | _ => false

def kind : Scalar → String
  | .null => "null"
  | .bool _ => "boolean"
  | .int _ => "integer"
  | .float _ => "float"
  | .text _ => "string"
  | .blob _ => "blob"

/-- The scalar inside a message: its kind around its content. -/
def shown : Scalar → String
  | .null => "Null"
  | .bool true => "Bool(true)"
  | .bool false => "Bool(false)"
  | .int n => "Int(" ++ Text.ofInt n ++ ")"
  | .float x => "Float(" ++ Double.Layout.shown.render x ++ ")"
  | .text s => "Text(" ++ Text.quoted s ++ ")"
  | .blob bytes =>
    "Blob([" ++ ", ".intercalate (bytes.map fun b => Text.ofNat b.toNat) ++ "])"

/-- The scalar as a JSON value; a blob is the array of its bytes. -/
def toJson : Scalar → Json
  | .null => .null
  | .bool b => .bool b
  | .int n => .int n
  | .float x => .double x
  | .text s => .text s
  | .blob bytes => .array (bytes.map fun b => .int b.toNat)

def json (s : Scalar) : String :=
  s.toJson.compact

def ofBoundedInt? (least greatest n : Int) : Option Scalar :=
  if least ≤ n ∧ n ≤ greatest then some (.int n) else none

end Scalar

end SqlAssembly
