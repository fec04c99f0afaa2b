import SqlAssembly.Json.Basic

/-! # The tokens of a JSON text

A JSON text is cut into punctuation, the three words, numbers and strings; the blanks
between them are dropped.  The lexer refuses what can be part of no JSON text: a word
that is not one of the three, a numeral out of the grammar, a string that is not closed
or that has a bare control character or a wrong escape.

A numeral with a point or an exponent, or one beyond a signed word of 64 bits, is read as
a double in two steps: its leading digits are taken as a whole number below `2 ^ 64`,
rounded, and that is scaled by one power of ten, rounded again.
-/

namespace SqlAssembly.Json

inductive Token where
  | openArray
  | closeArray
  | openObject
  | closeObject
  | comma
  | colon
  | text (s : String)
  | atom (value : Json)

/-! ## Numerals -/

def wordBound : Nat := UInt64.size

/-- Takes digits into a whole number as long as it stays below `wordBound`; the result
is that number and the digits left over. -/
def takeDigits (n : Nat) : List Char → Nat × List Char
  | [] => (n, [])
  | c :: cs =>
    let next := 10 * n + Text.digitValue c
    if next < wordBound then takeDigits next cs else (n, c :: cs)

def scaled? (negative : Bool) (digits : Nat) (exponent : Int) : Option Double :=
  let whole := Double.ofRatio .binary64 negative digits 1
  let power := exponent.natAbs
  if 0 ≤ exponent then
    if digits = 0 then some whole
    else if 308 < power then none
    else match whole.timesPowerOfTen power with
      | .infinity _ => none
      | x => some x
  else if power ≤ 308 then some (whole.overPowerOfTen power)
  else if power ≤ 616 then some ((whole.overPowerOfTen 308).overPowerOfTen (power - 308))
  else some (.finite negative 0 (-1074))

/-- The integer of a numeral, if it fits a signed word of 64 bits.  Minus zero is not an
integer. -/
def wordInt? (negative : Bool) (n : Nat) : Option Int :=
  if negative then
    if 0 < n ∧ n ≤ 9223372036854775808 then some (-(n : Int)) else none
  else if n < 9223372036854775808 then some n
  else none

/-- The exponent of a numeral: nothing at the end of it, else digits after an optional
sign. -/
def exponent? : List Char → Option Int
  | [] => some 0
  | mark :: '-' :: digits => if isExponent mark digits then some (-(value digits : Int)) else none
  | mark :: '+' :: digits => if isExponent mark digits then some (value digits) else none
  | mark :: digits => if isExponent mark digits then some (value digits) else none
where
  isExponent (mark : Char) (digits : List Char) : Bool :=
    (mark == 'e' || mark == 'E') && !digits.isEmpty && digits.all Char.isDigit
  value (digits : List Char) : Nat := Text.natOfDigits digits

def unsigned? (negative : Bool) (cs : List Char) : Option Json := do
  let (whole, rest) := cs.span Char.isDigit
  if whole.isEmpty || (whole.head? == some '0' && 1 < whole.length) then none
  let (kept, dropped) := takeDigits 0 whole
  match rest with
  | [] =>
    if dropped.isEmpty then
      match wordInt? negative kept with
      | some n => return .int n
      | none => return .double (Double.ofRatio .binary64 negative kept 1)
    else
      return .double (← scaled? negative kept dropped.length)
  | '.' :: more =>
    let (part, rest) := more.span Char.isDigit
    if part.isEmpty then none
    let (digits, unused) := takeDigits kept part
    let places := part.length - unused.length
    let exponent ← exponent? rest
    return .double (← scaled? negative digits (exponent + dropped.length - places))
  | rest =>
    let exponent ← exponent? rest
    return .double (← scaled? negative kept (exponent + dropped.length))

def numeral? : List Char → Option Json
  | '-' :: cs => unsigned? true cs
  | cs => unsigned? false cs

/-! ## Strings -/

def simpleEscape? : Char → Option Char
  | '"' => some '"'
  | '\\' => some '\\'
  | '/' => some '/'
  | 'b' => some '\x08'
  | 'f' => some '\x0c'
  | 'n' => some '\n'
  | 'r' => some '\r'
  | 't' => some '\t'
  | _ => none

def hexUnit? (a b c d : Char) : Option Nat := do
  let a ← Text.hexValue? a
  let b ← Text.hexValue? b
  let c ← Text.hexValue? c
  let d ← Text.hexValue? d
  return ((a * 16 + b) * 16 + c) * 16 + d

/-- The first half of a pair of units for a code point beyond `0xFFFF`. -/
def isHighHalf (unit : Nat) : Bool := 0xD800 ≤ unit && unit < 0xDC00

def isLowHalf (unit : Nat) : Bool := 0xDC00 ≤ unit && unit < 0xE000

/-- The characters of a string up to its closing quotation mark, and what follows it.
A half of a pair of units must stand beside its other half. -/
def stringBody : List Char → Option (List Char × List Char)
  | [] => none
  | '"' :: rest => some ([], rest)
  | '\\' :: 'u' :: a :: b :: c :: d :: rest => do
    let unit ← hexUnit? a b c d
    if isLowHalf unit then none
    else if isHighHalf unit then
      match rest with
      | '\\' :: 'u' :: e :: f :: g :: h :: more =>
        let second ← hexUnit? e f g h
        if isLowHalf second then
          let (body, left) ← stringBody more
          let point := 0x10000 + (unit - 0xD800) * 0x400 + (second - 0xDC00)
          return (Char.ofNat point :: body, left)
        else none
      | _ => none
    else
      let (body, left) ← stringBody rest
      return (Char.ofNat unit :: body, left)
  | '\\' :: c :: rest => do
    let c ← simpleEscape? c
    let (body, left) ← stringBody rest
    return (c :: body, left)
  | c :: rest => do
    if c.toNat < 0x20 then none
    let (body, left) ← stringBody rest
    return (c :: body, left)

/-! ## Tokens -/

def isJsonBlank (c : Char) : Bool :=
  c == ' ' || c == '\t' || c == '\n' || c == '\r'

def isNumeralChar (c : Char) : Bool :=
  c.isDigit || c == '-' || c == '+' || c == '.' || c == 'e' || c == 'E'

def punctuation? : Char → Option Token
  | '[' => some .openArray
  | ']' => some .closeArray
  | '\x7b' => some .openObject
  | '\x7d' => some .closeObject
  | ',' => some .comma
  | ':' => some .colon
  | _ => none

def word? (cs : List Char) : Option Json :=
  match String.ofList cs with
  | "null" => some .null
  | "true" => some (.bool true)
  | "false" => some (.bool false)
  | _ => none

/-- The first token of a text that starts with `c`, and what follows it. -/
def token? (c : Char) (cs : List Char) : Option (Token × List Char) :=
  match punctuation? c with
  | some mark => some (mark, cs)
  | none =>
    if c == '"' then
      (stringBody cs).map fun (body, rest) => (.text (String.ofList body), rest)
    else if c.isDigit || c == '-' then
      let (more, rest) := cs.span isNumeralChar
      (numeral? (c :: more)).map fun n => (.atom n, rest)
    else
      let (more, rest) := cs.span Char.isAlpha
      (word? (c :: more)).map fun v => (.atom v, rest)

/-- The tokens of a text.  `limit` bounds the number of steps; each step takes at least
one character, so the length of the text is bound enough. -/
def tokensWithin? : Nat → List Char → Option (List Token)
  | _, [] => some []
  | 0, _ :: _ => none
  | limit + 1, c :: cs =>
    if isJsonBlank c then tokensWithin? limit cs
    else do
      let (token, rest) ← token? c cs
      let tokens ← tokensWithin? limit rest
      return token :: tokens

def tokens? (s : String) : Option (List Token) :=
  tokensWithin? s.length s.toList

end SqlAssembly.Json
