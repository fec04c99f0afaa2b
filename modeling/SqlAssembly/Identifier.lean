import SqlAssembly.Dialect
import SqlAssembly.Text.Blank

/-! # Bare tokens: names, order specifications and join kinds

Tables, columns, order and group specifications are given as bare text.  A token that
can only be a name is quoted, an alias behind a name is kept, and any other text is taken
for an expression and left alone.
-/

namespace SqlAssembly

def isNameChar (c : Char) : Bool :=
  c.isAlphanum || c == '_' || c == '.'

/-- Whether a token is a name, with dots or without, rather than a number or an
expression. -/
def isIdentifier (token : String) : Bool :=
  let cs := token.toList
  !cs.isEmpty && cs.all isNameChar && !cs.all Char.isDigit

namespace Dialect

/-- A token as it stands in a statement.  A name is quoted; of `name alias` and
`name AS alias` only the name is; anything else stays as it is. -/
def quoteToken (dialect : Dialect) (token : String) : String :=
  if isIdentifier token then dialect.quoteIdentifier token
  else
    match Text.splitAtChar ' ' token with
    | [name, short] =>
      if isIdentifier name then dialect.quoteIdentifier name ++ " " ++ short else token
    | [name, middle, short] =>
      if isIdentifier name then dialect.quoteIdentifier name ++ " " ++ middle ++ " " ++ short
      else token
    | _ => token

/-- A token of a GROUP BY list as it stands in a statement; only bare names are quoted. -/
def groupItem (dialect : Dialect) (token : String) : String :=
  if isIdentifier token then dialect.quoteIdentifier token else token

end Dialect

/-! ## Order specifications -/

inductive Direction where
  | ascending
  | descending
  deriving DecidableEq, Repr

namespace Direction

def keyword : Direction → String
  | .ascending => "ASC"
  | .descending => "DESC"

end Direction

inductive OrderSpec where
  | column (name : String) (direction : Direction)
  | expression (text : String)
  deriving DecidableEq, Repr

namespace OrderSpec

def direction? (word : String) : Option Direction :=
  match Text.asciiLower word with
  | "asc" => some .ascending
  | "desc" => some .descending
  | _ => none

/-- The specification of a text without the rule for a leading minus: one word is an
ascending column, a second word may name the direction, anything else is an expression. -/
def ofWords (spec : String) : OrderSpec :=
  match Text.words spec with
  | [name] => .column name .ascending
  | [name, word] =>
    match direction? word with
    | some direction => .column name direction
    | none => .expression spec
  | _ => .expression spec

/-- The specification that a text gives.  A minus sign before a name means descending
order. -/
def ofText (text : String) : OrderSpec :=
  let spec := Text.trim text
  match spec.toList with
  | '-' :: name =>
    if isIdentifier (String.ofList name) then .column (String.ofList name) .descending
    else ofWords spec
  | _ => ofWords spec

def sql (dialect : Dialect) : OrderSpec → String
  | .column name direction => dialect.quoteToken name ++ " " ++ direction.keyword
  | .expression text => text

end OrderSpec

/-! ## Joins -/

inductive JoinKind where
  | natural
  | inner
  | left
  | right
  | full
  | cross
  | custom (words : String)
  deriving DecidableEq, Repr

instance : Inhabited JoinKind := ⟨.natural⟩

namespace JoinKind

def keyword : JoinKind → String
  | .natural => "NATURAL JOIN"
  | .inner => "INNER JOIN"
  | .left => "LEFT JOIN"
  | .right => "RIGHT JOIN"
  | .full => "FULL JOIN"
  | .cross => "CROSS JOIN"
  | .custom words => Text.asciiUpper (Text.trim words) ++ " JOIN"

end JoinKind

end SqlAssembly
