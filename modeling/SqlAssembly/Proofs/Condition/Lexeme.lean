import SqlAssembly.Draft.Basic
import SqlAssembly.Proofs.Fragment.Scanner

/-! # The lexemes of condition text

To say what condition text means it has to be cut into parentheses and tokens.  Quoted
regions are those of the placeholder scan, words are maximal runs of word characters, and
AND, OR and NOT are words in any case.  Comments are not part of condition text: a dash is
a symbol like any other.

* `lexemes` — the lexemes of a text.
* `lexemes_join`, `lexemes_parenthesize`, `lexemes_negate` — the lexemes of the texts that
  joining, grouping and negating conditions gives.
-/

namespace SqlAssembly.Condition

/-- What condition text is made of, parentheses apart. -/
inductive Token where
  | connective (c : Connective)
  | not
  /-- Any other word: a name, a number or a keyword. -/
  | word (letters : List Char)
  /-- A quoted text or identifier, with the character that quotes it. -/
  | quoted (quote : Char) (content : List Char)
  | symbol (c : Char)
  deriving DecidableEq, Repr

inductive Lexeme where
  | opening
  | closing
  | token (t : Token)
  deriving DecidableEq, Repr

def isWordChar (c : Char) : Bool :=
  c.isAlphanum || c == '_' || c == '$' || 128 ≤ c.toNat

def connectiveLetters : Connective → List Char
  | .and => ['A', 'N', 'D']
  | .or => ['O', 'R']

def Token.ofWord (letters : List Char) : Token :=
  let upper := letters.map Char.toUpper
  if upper = connectiveLetters .and then .connective .and
  else if upper = connectiveLetters .or then .connective .or
  else if upper = ['N', 'O', 'T'] then .not
  else .word letters

/-- The word whose letters have been read, if there are any. -/
def finishedWord (letters : List Char) : List Lexeme :=
  if letters.isEmpty then [] else [.token (.ofWord letters)]

/-- What a character is that belongs neither to a word nor to a quoted region. -/
def separator (c : Char) : List Lexeme :=
  if c = '(' then [.opening]
  else if c = ')' then [.closing]
  else if Text.isBlankChar c then []
  else [.token (.symbol c)]

/-- The lexemes of a list of characters.  `read` holds what has been read of a word, or of
the quoted region the scan stands in. -/
def lexemesFrom : QuoteState → (read : List Char) → List Char → List Lexeme
  | none, read, [] => finishedWord read
  | some q, read, [] => [.token (.quoted q read)]
  | none, read, c :: cs =>
    if isQuoteChar c then finishedWord read ++ lexemesFrom (some c) [] cs
    else if isWordChar c then lexemesFrom none (read ++ [c]) cs
    else finishedWord read ++ separator c ++ lexemesFrom none [] cs
  | some q, read, c :: cs =>
    if c == q then .token (.quoted q read) :: lexemesFrom none [] cs
    else lexemesFrom (some q) (read ++ [c]) cs

/-- The lexemes of a text. -/
def lexemes (s : String) : List Lexeme := lexemesFrom none [] s.toList

/-! ## Texts in a row -/

/-- A separator outside quotes divides a text: no lexeme reaches across it. -/
theorem lexemesFrom_append {c : Char} (unquoted : isQuoteChar c = false)
    (divides : isWordChar c = false) (ds : List Char) (state : QuoteState) (read cs : List Char)
    (closed : state.after cs = none) :
    lexemesFrom state read (cs ++ c :: ds) =
      lexemesFrom state read cs ++ separator c ++ lexemesFrom none [] ds := by
  induction cs generalizing state read with
  | nil =>
    obtain rfl : state = none := closed
    simp [lexemesFrom, unquoted, divides]
  | cons d cs inductionHypothesis =>
    have next (read : List Char) := inductionHypothesis (state.step d) read closed
    cases state with
    | none =>
      simp only [QuoteState.step] at next
      simp only [List.cons_append, lexemesFrom]
      split
      · rename_i opens
        rw [if_pos opens] at next
        simp [next]
      · rename_i plain
        rw [if_neg plain] at next
        split <;> simp [next]
    | some q =>
      simp only [QuoteState.step] at next
      simp only [List.cons_append, lexemesFrom]
      split
      · rename_i closes
        rw [if_pos closes] at next
        simp [next]
      · rename_i inside
        rw [if_neg inside] at next
        exact next _

theorem lexemes_append {s : String} (closed : isClosed s = true) {c : Char}
    (unquoted : isQuoteChar c = false) (divides : isWordChar c = false) (ds : List Char) :
    lexemesFrom none [] (s.toList ++ c :: ds) =
      lexemes s ++ separator c ++ lexemesFrom none [] ds :=
  lexemesFrom_append unquoted divides ds none [] s.toList ((isClosed_iff s).mp closed)

theorem isClosed_append {s t : String} (left : isClosed s = true) (right : isClosed t = true) :
    isClosed (s ++ t) = true := by
  rw [isClosed_iff] at left right ⊢
  rw [String.toList_append, QuoteState.after_append, left, right]

theorem lexemes_join {s : String} (closed : isClosed s = true) (c : Connective) (t : String) :
    lexemes (s ++ c.combinator.text ++ t) = lexemes s ++ .token (.connective c) :: lexemes t := by
  have chars : (s ++ c.combinator.text ++ t).toList =
      s.toList ++ '\n' :: '\t' :: (connectiveLetters c ++ ' ' :: t.toList) := by
    cases c <;> simp [Connective.combinator, Combinator.text, connectiveLetters]
  -- the line break ends the first text, and the blank behind the connective ends its word
  rw [lexemes, chars, lexemes_append closed (by decide) (by decide), List.append_assoc]
  cases c <;> rfl

theorem lexemes_closing {s : String} (closed : isClosed s = true) :
    lexemes (s ++ " )") = lexemes s ++ [.closing] := by
  have chars : (s ++ " )").toList = s.toList ++ ' ' :: [')'] := by simp
  rw [lexemes, chars, lexemes_append closed (by decide) (by decide), List.append_assoc]
  rfl

theorem lexemes_parenthesize {s : String} (closed : isClosed s = true) :
    lexemes ("( " ++ s ++ " )") = .opening :: lexemes s ++ [.closing] := by
  have chars : ("( " ++ s ++ " )").toList = '(' :: ' ' :: (s ++ " )").toList := by simp
  rw [lexemes, chars]
  change .opening :: lexemes (s ++ " )") = _
  rw [lexemes_closing closed]
  rfl

theorem lexemes_negate {s : String} (closed : isClosed s = true) :
    lexemes ("NOT ( " ++ s ++ " )") = .token .not :: .opening :: lexemes s ++ [.closing] := by
  have chars : ("NOT ( " ++ s ++ " )").toList =
      'N' :: 'O' :: 'T' :: ' ' :: '(' :: ' ' :: (s ++ " )").toList := by simp
  rw [lexemes, chars]
  change .token .not :: .opening :: lexemes (s ++ " )") = _
  rw [lexemes_closing closed]
  rfl

end SqlAssembly.Condition
