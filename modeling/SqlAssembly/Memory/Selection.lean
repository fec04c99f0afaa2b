import SqlAssembly.Engine
import SqlAssembly.Memory.Table

/-! # Reading tables in memory

The clauses that choose rows and values: conditions joined by AND, an order by the key, a
limit with an offset, and a list of columns, constants or the number of rows.

A table without rows is read without a look at the conditions, since no row could satisfy
them, and where no row is chosen nothing else of the statement matters.
-/

namespace SqlAssembly.Memory

def constants? (tokens : List Token) : Option (List Scalar) :=
  (items tokens).mapM fun
    | [token] => token.constant?
    | _ => none

def isKeyword (token : Token) (keyword : String) : Bool :=
  token.keyword? == some keyword

def test? : List Token → Option Test
  | [column, .mark '=', operand] => do return .equals (← column.name?) (← operand.constant?)
  | [column, is, null] =>
    if isKeyword is "IS" && isKeyword null "NULL" then column.name?.map .isNull else none
  | [column, is, not, null] =>
    if isKeyword is "IS" && isKeyword not "NOT" && isKeyword null "NULL" then
      column.name?.map .notNull
    else none
  | column :: word :: .mark '(' :: rest =>
    if isKeyword word "IN" && rest.getLast? == some (.mark ')') then do
      return .member (← column.name?) (← constants? rest.dropLast)
    else none
  | _ => none

/-- The conditions of a statement; without a clause for them there are none. -/
def tests (found : List ClauseTokens) : Except DatabaseError (List Test) :=
  match clause? found "WHERE" with
  | none => .ok []
  | some tokens =>
    match (tokens.splitOnP (isKeyword · "AND")).mapM test? with
    | some tests => .ok tests
    | none => .error (unreadable tokens)

def chosenRows (table : Table) (found : List ClauseTokens) :
    Except DatabaseError (List StoredRow) := do
  if table.rows.isEmpty then return []
  else table.matching (← tests found)

/-- The rows in the order of a statement, which can only be that of the key. -/
def ordered (table : Table) (found : List ClauseTokens) (rows : List StoredRow) :
    Except DatabaseError (List StoredRow) :=
  match clause? found "ORDER" with
  | none => .ok rows
  | some [_, column, direction] =>
    if column.name?.isSome && column.name? = table.key then
      if isKeyword direction "DESC" then .ok rows.reverse else .ok rows
    else .error (unreadable [column])
  | some tokens => .error (unreadable tokens)

def number (found : List ClauseTokens) (word : String) (absent : Int) :
    Except DatabaseError Int :=
  match clause? found word with
  | none => .ok absent
  | some tokens =>
    match constants? tokens with
    | some [.int n] => .ok n
    | _ => .error (unreadable tokens)

/-- The rows that a limit and an offset leave.  A negative limit is none. -/
def limited {α : Type} (found : List ClauseTokens) (rows : List α) :
    Except DatabaseError (List α) := do
  let limit ← number found "LIMIT" (-1)
  let offset ← number found "OFFSET" 0
  let rest := rows.drop offset.toNat
  return if limit < 0 then rest else rest.take limit.toNat

/-! ## What is selected -/

inductive Content where
  | column (name : String)
  | constant (value : Scalar)
  deriving DecidableEq, Repr

structure Item where
  label : String
  content : Content
  deriving DecidableEq, Repr

/-- A column or a constant under a label of its own or its text. -/
def item? (token : Token) (label : Option Token) : Option Item := do
  let content ← match token.constant? with
    | some value => some (Content.constant value)
    | none => token.name?.map Content.column
  match label with
  | some label => return ⟨← label.name?, content⟩
  | none => return ⟨token.label, content⟩

/-- The columns of a result that one item of a list gives; a star gives all columns of
the table. -/
def expand? (table : Table) : List Token → Option (List Item)
  | [.mark '*'] => some (table.columns.map fun column => ⟨column, .column column⟩)
  | [token] => (item? token none).map ([·])
  | [token, as, label] => if isKeyword as "AS" then (item? token (some label)).map ([·]) else none
  | [token, label] => (item? token (some label)).map ([·])
  | _ => none

def itemList (table : Table) (tokens : List Token) : Except DatabaseError (List Item) :=
  match (items tokens).mapM (expand? table) with
  | some lists => .ok lists.flatten
  | none => .error (unreadable tokens)

def project (table : Table) (columns : List Item) (row : StoredRow) :
    Except DatabaseError (List Scalar) :=
  columns.mapM fun column =>
    match column.content with
    | .column name => table.cell row name
    | .constant value => .ok value.stored

def countList : List Token := [.word "COUNT", .mark '(', .mark '*', .mark ')']

def listing (table : Table) (tokens : List Token) (rows : List StoredRow) :
    Except DatabaseError Reply := do
  if rows.isEmpty then return {}
  else
    let columns ← itemList table tokens
    let values ← rows.mapM (project table columns)
    return { rows := values.map (⟨columns.map Item.label, ·⟩) }

def select (table : Table) (tokens : List Token) (found : List ClauseTokens) :
    Except DatabaseError Reply := do
  let chosen ← chosenRows table found
  if tokens = countList ∧ clause? found "GROUP" = none then
    let count : Row := ⟨["COUNT(*)"], [.int chosen.length]⟩
    return { rows := ← limited found [count] }
  else if chosen.isEmpty then return {}
  else
    listing table tokens (← limited found (← ordered table found chosen))

/-- The table with one row and no columns, from which constants are selected. -/
def unit : Table := { name := "", columns := [], rows := [⟨1, []⟩] }

end SqlAssembly.Memory
