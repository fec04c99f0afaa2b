import SqlAssembly.Fragment.Placeholder

/-! # The tokens and clauses of a statement

The engine in memory reads the few statements it knows by their clauses: a clause starts
at one of the words that start clauses and reaches to the next one.  Parameters take the
place of their placeholders while the text is cut into tokens.

* `Token.scan` — the tokens of a text under its parameters.
* `clauses` — the clauses of a statement.
-/

namespace SqlAssembly.Memory

inductive Token where
  -- A keyword, a bare name or a number.
  | word (text : String)
  | quotedName (text : String)
  -- A literal text or a parameter, with what stands for it in the statement.
  | value (label : String) (content : Scalar)
  | mark (c : Char)
  deriving DecidableEq, Repr

namespace Token

def isWordChar (c : Char) : Bool :=
  c.isAlphanum || c == '_' || c == '.' || c == '-'

/-- The word whose characters have been read, last first, if there are any. -/
def finishedWord (read : List Char) : List Token :=
  if read.isEmpty then [] else [.word (String.ofList read.reverse)]

def ofRegion (quote : Char) (content : List Char) : Token :=
  let text := String.ofList content.reverse
  if quote == '\'' then .value ("'" ++ text ++ "'") (.text text) else .quotedName text

/-- The tokens of a list of characters.  `read` holds the characters of the word or the
region that is being read, last first.  A placeholder takes the next parameter, and NULL
when there is none left. -/
def scanFrom : QuoteState → (read : List Char) → List Scalar → List Char → List Token
  | none, read, _, [] => finishedWord read
  | some q, read, _, [] => [ofRegion q read]
  | some q, read, params, c :: cs =>
    if c == q then ofRegion q read :: scanFrom none [] params cs
    else scanFrom (some q) (c :: read) params cs
  | none, read, params, c :: cs =>
    if isWordChar c then scanFrom none (c :: read) params cs
    else finishedWord read ++
      if isQuoteChar c then scanFrom (some c) [] params cs
      else if c == '?' then .value "?" (params.headD .null) :: scanFrom none [] params.tail cs
      else if c.isWhitespace then scanFrom none [] params cs
      else .mark c :: scanFrom none [] params cs

def scan (sql : String) (params : List Scalar) : List Token :=
  scanFrom none [] params sql.toList

/-- The token as it stands in the statement, without quotes around a name. -/
def label : Token → String
  | .word text => text
  | .quotedName text => text
  | .value label _ => label
  | .mark c => String.singleton c

def name? : Token → Option String
  | .word text => some text
  | .quotedName text => some text
  | _ => none

def keyword? : Token → Option String
  | .word text => some (Text.asciiUpper text)
  | _ => none

def constant? : Token → Option Scalar
  | .value _ content => some content
  | .word text =>
    if Text.asciiUpper text = "NULL" then some .null
    else
      match text.toList with
      | '-' :: digits =>
        if !digits.isEmpty && digits.all Char.isDigit then
          some (.int (-(Text.natOfDigits digits : Int)))
        else none
      | digits =>
        if digits.all Char.isDigit then some (.int (Text.natOfDigits digits)) else none
  | _ => none

end Token

def clauseWords : List String :=
  ["SELECT", "FROM", "WHERE", "GROUP", "HAVING", "ORDER", "LIMIT", "OFFSET", "INSERT",
   "REPLACE", "INTO", "VALUES", "RETURNING", "UPDATE", "SET", "DELETE", "CREATE"]

/-- A clause: the word that starts it, and its other tokens. -/
abbrev ClauseTokens := String × List Token

/-- The clauses of a list of tokens, and the tokens before the first of them. -/
def splitClauses : List Token → List Token × List ClauseTokens
  | [] => ([], [])
  | token :: rest =>
    let (before, found) := splitClauses rest
    match token.keyword?.filter clauseWords.contains with
    | some word => ([], (word, before) :: found)
    | none => (token :: before, found)

def clause? (found : List ClauseTokens) (word : String) : Option (List Token) :=
  found.lookup word

def items (tokens : List Token) : List (List Token) :=
  tokens.splitOnP (· == .mark ',')

end SqlAssembly.Memory
