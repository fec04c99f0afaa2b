import SqlAssembly.Fragment.Placeholder

/-! # The keywords of a statement

Whether a statement gives rows is told from its keywords: the runs of ASCII letters,
digits and underscores outside quoted texts and quoted identifiers, in upper case.
Identifiers may be quoted in brackets here as well.  An opening quote ends the keyword
before it, so no keyword reaches across a quoted region.

* `keywords` — the keywords of a text, in order.
* `returnsRows` — whether a statement gives rows.
-/

namespace SqlAssembly

def isKeywordChar (c : Char) : Bool :=
  c.isAlphanum || c == '_'

/-- The character that closes the region a character opens, if it opens one. -/
def closingChar? (c : Char) : Option Char :=
  if isQuoteChar c then some c else if c == '[' then some ']' else none

def finishedKeyword (word : List Char) : List String :=
  if word.isEmpty then [] else [String.ofList word.reverse]

/-- The keywords of a list of characters.  `region` is the character that closes the
quoted region the scanner stands in; `word` holds what has been read of a keyword, last
character first. -/
def keywordsFrom : (region : Option Char) → (word : List Char) → List Char → List String
  | _, word, [] => finishedKeyword word
  | some q, word, c :: cs => keywordsFrom (if c == q then none else some q) word cs
  | none, word, c :: cs =>
    if isKeywordChar c then keywordsFrom none (c.toUpper :: word) cs
    else finishedKeyword word ++ keywordsFrom (closingChar? c) [] cs

def keywords (sql : String) : List String :=
  keywordsFrom none [] sql.toList

def rowVerbs : List String := ["SELECT", "WITH", "PRAGMA", "VALUES", "EXPLAIN"]

/-- A statement gives rows when it starts with one of `rowVerbs` or asks for the changed
rows. -/
def returnsRows (sql : String) : Bool :=
  let words := keywords sql
  words.head?.any rowVerbs.contains || words.contains "RETURNING"

end SqlAssembly
