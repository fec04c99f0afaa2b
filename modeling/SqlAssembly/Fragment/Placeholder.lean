import SqlAssembly.Scalar

/-! # Placeholders and quotes in SQL text

A question mark stands for a parameter unless it lies inside a quoted text or a quoted
identifier.  The scanner below reads a text from left to right and only knows whether it
stands outside all quotes or inside a region, and which character closes the region.
The doubled quote needs no rule of its own: it closes the region and opens it again.

* `QuoteState.after` — the state after a text; a text that starts and ends outside is
  *closed*.
* `placeholderCount` — the number of placeholders.
* `inlined` — the text with placeholders replaced by literals.
-/

namespace SqlAssembly

/-- Where a scanner stands: outside all quotes, or inside a region that the given
character closes. -/
abbrev QuoteState := Option Char

/-- The characters that open a region, and close it again. -/
def isQuoteChar (c : Char) : Bool :=
  c == '\'' || c == '"' || c == '\x60'

namespace QuoteState

def step : QuoteState → Char → QuoteState
  | none, c => if isQuoteChar c then some c else none
  | some q, c => if c == q then none else some q

def after (state : QuoteState) (cs : List Char) : QuoteState :=
  cs.foldl step state

end QuoteState

/-- A text is closed when a scan that starts outside quotes ends outside quotes. -/
def isClosed (s : String) : Bool :=
  QuoteState.after none s.toList == none

/-- A question mark outside quotes is a placeholder. -/
def isPlaceholder (state : QuoteState) (c : Char) : Bool :=
  state == none && c == '?'

def countPlaceholders : QuoteState → List Char → Nat
  | _, [] => 0
  | state, c :: cs =>
    (if isPlaceholder state c then 1 else 0) + countPlaceholders (state.step c) cs

def placeholderCount (s : String) : Nat :=
  countPlaceholders none s.toList

/-- The characters with each placeholder replaced by the literal of the next parameter.
Placeholders beyond the last parameter stay. -/
def inlineChars : QuoteState → List Char → List Scalar → List Char
  | _, [], _ => []
  | state, c :: cs, [] => c :: inlineChars (state.step c) cs []
  | state, c :: cs, p :: params =>
    if isPlaceholder state c then p.literal.toList ++ inlineChars (state.step c) cs params
    else c :: inlineChars (state.step c) cs (p :: params)

def inlined (s : String) (params : List Scalar) : String :=
  String.ofList (inlineChars none s.toList params)

end SqlAssembly
