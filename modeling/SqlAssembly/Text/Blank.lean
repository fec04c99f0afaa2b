import SqlAssembly.Text.Basic

/-! # Blank characters and words

Texts given by callers are trimmed, tested for blankness and cut into words.  A
character counts as blank when it has the Unicode property *White_Space*, so a
no-break space or an ideographic space separates words as a plain space does.

* `isBlankChar` — membership in the property's ranges.
* `trim`, `isBlank`, `words` — the three questions asked about blank characters.
-/

namespace SqlAssembly.Text

/-- The code points with the property *White_Space*, as inclusive ranges. -/
def blankRanges : List (Nat × Nat) :=
  [(0x09, 0x0D), (0x20, 0x20), (0x85, 0x85), (0xA0, 0xA0), (0x1680, 0x1680),
   (0x2000, 0x200A), (0x2028, 0x2029), (0x202F, 0x202F), (0x205F, 0x205F),
   (0x3000, 0x3000)]

def isBlankChar (c : Char) : Bool :=
  inRanges blankRanges c

def trimChars (cs : List Char) : List Char :=
  ((cs.dropWhile isBlankChar).reverse.dropWhile isBlankChar).reverse

def trim (s : String) : String :=
  String.ofList (trimChars s.toList)

/-- A text is blank when nothing of it would be left after trimming. -/
def isBlank (s : String) : Bool :=
  s.toList.all isBlankChar

/-- The maximal runs of characters that are not blank, in order. -/
def words (s : String) : List String :=
  ((s.toList.splitOnP isBlankChar).filter (!·.isEmpty)).map String.ofList

end SqlAssembly.Text
