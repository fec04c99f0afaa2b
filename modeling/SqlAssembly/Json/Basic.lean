import SqlAssembly.Double.Layout
import SqlAssembly.Text.Basic

/-! # JSON values and their written forms

A JSON value keeps what the text of a number says: a number without a point and without
an exponent that fits a signed word of 64 bits is an integer, every other number is a
double.  An object keeps its members in the order they were written, repeated keys
included.

* `Json.compact` — one line without blanks.
* `Json.pretty` — one element or member a line, each level indented by two spaces.
-/

namespace SqlAssembly

inductive Json where
  | null
  | bool (b : Bool)
  | int (n : Int)
  | double (x : Double)
  | text (s : String)
  | array (items : List Json)
  | object (members : List (String × Json))
  deriving Inhabited

namespace Json

/-- One character of a JSON string.  The quotation mark, the backslash and the control
characters are escaped, nothing else. -/
def escapeChar (c : Char) : String :=
  if c == '"' then "\\\""
  else if c == '\\' then "\\\\"
  else if c == '\x08' then "\\b"
  else if c == '\x0c' then "\\f"
  else if c == '\n' then "\\n"
  else if c == '\r' then "\\r"
  else if c == '\t' then "\\t"
  else if c.toNat < 0x20 then "\\u00" ++ String.ofList (Text.hexByte c.toNat.toUInt8)
  else String.singleton c

def quoted (s : String) : String :=
  "\"" ++ String.join (s.toList.map escapeChar) ++ "\""

/-- The text of a JSON number.  NaN and the infinities have none and become `null`. -/
def number : Double → String
  | .nan => "null"
  | .infinity _ => "null"
  | finite => Double.Layout.json.render finite

mutual

/-- The value on one line without blanks. -/
def compact : Json → String
  | .null => "null"
  | .bool true => "true"
  | .bool false => "false"
  | .int n => Text.ofInt n
  | .double x => number x
  | .text s => quoted s
  | .array items => "[" ++ ",".intercalate (compactItems items) ++ "]"
  | .object members => "\x7b" ++ ",".intercalate (compactMembers members) ++ "\x7d"

def compactItems : List Json → List String
  | [] => []
  | item :: items => item.compact :: compactItems items

def compactMembers : List (String × Json) → List String
  | [] => []
  | (key, value) :: members => (quoted key ++ ":" ++ value.compact) :: compactMembers members

end

def newline (depth : Nat) : String :=
  "\n" ++ String.ofList (List.replicate (2 * depth) ' ')

/-- Brackets around the lines of an array or object; the empty one stays on one line. -/
def bracketed (opening closing : String) (depth : Nat) : List String → String
  | [] => opening ++ closing
  | lines =>
    opening ++ newline (depth + 1) ++ ("," ++ newline (depth + 1)).intercalate lines
      ++ newline depth ++ closing

mutual

/-- The value with one element or member a line, starting at a depth. -/
def prettyAt (depth : Nat) : Json → String
  | .array items => bracketed "[" "]" depth (prettyItems (depth + 1) items)
  | .object members => bracketed "\x7b" "\x7d" depth (prettyMembers (depth + 1) members)
  | .null => "null"
  | .bool true => "true"
  | .bool false => "false"
  | .int n => Text.ofInt n
  | .double x => number x
  | .text s => quoted s

def prettyItems (depth : Nat) : List Json → List String
  | [] => []
  | item :: items => item.prettyAt depth :: prettyItems depth items

def prettyMembers (depth : Nat) : List (String × Json) → List String
  | [] => []
  | (key, value) :: members =>
    (quoted key ++ ": " ++ value.prettyAt depth) :: prettyMembers depth members

end

def pretty (value : Json) : String :=
  value.prettyAt 0

end Json

end SqlAssembly
