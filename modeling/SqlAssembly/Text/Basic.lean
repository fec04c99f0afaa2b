/-! # Elementary text functions

The few operations on texts that every other module builds on: membership of a
character in a property's ranges, cutting at a character, ASCII case, decimal and
hexadecimal digits, and writing a character twice.  All of them are defined on the list
of characters of a text, so that they can be reasoned about by induction on that list.
-/

namespace SqlAssembly.Text

def inRanges (ranges : List (Nat × Nat)) (c : Char) : Bool :=
  ranges.any fun (first, last) => first ≤ c.toNat && c.toNat ≤ last

/-- The pieces of a text between the occurrences of a character, in order.  A text
without the character is one piece, and so is the empty text. -/
def splitAtChar (separator : Char) (s : String) : List String :=
  (s.toList.splitOnP (· == separator)).map String.ofList

def asciiLower (s : String) : String :=
  String.ofList (s.toList.map Char.toLower)

def asciiUpper (s : String) : String :=
  String.ofList (s.toList.map Char.toUpper)

def ofNat (n : Nat) : String :=
  String.ofList (Nat.toDigits 10 n)

def ofInt : Int → String
  | .ofNat n => ofNat n
  | .negSucc n => "-" ++ ofNat (n + 1)

/-- The decimal digits of a number, filled up with zeros on the left to a width. -/
def padded (width n : Nat) : String :=
  let digits := Nat.toDigits 10 n
  String.ofList (List.replicate (width - digits.length) '0' ++ digits)

/-- The text that stands once for every character except `c`, which is written twice. -/
def doubleChar (c : Char) (s : String) : String :=
  String.ofList (s.toList.flatMap fun x => if x == c then [c, c] else [x])

def digitValue (c : Char) : Nat :=
  c.toNat - '0'.toNat

def natOfDigits (digits : List Char) : Nat :=
  digits.foldl (fun n c => 10 * n + digitValue c) 0

def hexValue? (c : Char) : Option Nat :=
  if c.isDigit then some (c.toNat - '0'.toNat)
  else if 'a' ≤ c && c ≤ 'f' then some (c.toNat - 'a'.toNat + 10)
  else if 'A' ≤ c && c ≤ 'F' then some (c.toNat - 'A'.toNat + 10)
  else none

def hexByte (b : UInt8) : List Char :=
  [Nat.digitChar (b.toNat / 16), Nat.digitChar (b.toNat % 16)]

end SqlAssembly.Text
