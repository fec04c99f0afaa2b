import SqlAssembly.Connection.Error
import SqlAssembly.Double.Reader
import SqlAssembly.Memory.Token
import SqlAssembly.Text.Blank

/-! # Tables in memory

A table has untyped columns, of which one may be its key.  Every row has a number; the key
column shows it.  Rows are kept in the order of their numbers, since a new row is numbered
after the greatest number present.

* `Scalar.stored` — a scalar as a table keeps it.
* `Table.insert`, `Table.update`, `Table.delete` — changes of rows.
* `Test.holds` — a condition on a row.
-/

namespace SqlAssembly

namespace Scalar

/-- The scalar as it is kept: truth values become numbers, and NaN becomes NULL. -/
def stored : Scalar → Scalar
  | .bool true => .int 1
  | .bool false => .int 0
  | .float .nan => .null
  | other => other

/-- The number that a text writes, for a comparison with a number. -/
def numberOfText (s : String) : Option Scalar :=
  match Double.read? .binary64 (Text.trim s) with
  | some (.finite negative significand exponent) =>
    some (.float (.finite negative significand exponent))
  | _ => none

/-- Whether two numbers are equal, or two scalars of one kind are.  NULL equals nothing. -/
def equalsStored : Scalar → Scalar → Bool
  | .int n, .int m => n == m
  | .int n, .float x => x.toInt? == some n
  | .float x, .int n => x.toInt? == some n
  | .float x, .float y => x == y || (x.toInt? == some 0 && y.toInt? == some 0)
  | .text s, .text t => s == t
  | .blob a, .blob b => a == b
  | _, _ => false

end Scalar

namespace Memory

def refusal (text : String) : DatabaseError := .refused 1 text

/-- The refusal of a statement that is not understood from a place on. -/
def unreadable : List Token → DatabaseError
  | [] => refusal "incomplete input"
  | token :: _ => refusal ("near \"" ++ token.label ++ "\": syntax error")

structure StoredRow where
  id : Int
  values : List Scalar
  deriving DecidableEq, Repr

structure Table where
  name : String
  columns : List String
  -- The column that shows the numbers of the rows.
  key : Option String := none
  rows : List StoredRow := []
  deriving DecidableEq, Repr

inductive Test where
  | equals (column : String) (operand : Scalar)
  | member (column : String) (operands : List Scalar)
  | isNull (column : String)
  | notNull (column : String)
  deriving DecidableEq, Repr

namespace Table

def cell (table : Table) (row : StoredRow) (column : String) : Except DatabaseError Scalar :=
  match (table.columns.idxOf? column).bind (row.values[·]?) with
  | some value => .ok value
  | none => .error (refusal ("no such column: " ++ column))

/-- An operand compared with a column.  The key is a number, so a text that writes a number
stands for it there. -/
def operandFor (table : Table) (column : String) (operand : Scalar) : Scalar :=
  match operand.stored with
  | .text s => if table.key = some column then (Scalar.numberOfText s).getD (.text s) else .text s
  | other => other

def nextId (table : Table) : Int :=
  1 + (table.rows.map StoredRow.id).foldl max 0

/-- The values of a new row: its number in the key column, the given values in theirs, and
NULL in all others. -/
def newValues (table : Table) (id : Int) (given : List (String × Scalar)) : List Scalar :=
  table.columns.map fun column =>
    if table.key = some column then .int id else ((given.lookup column).getD .null).stored

def insert (table : Table) (given : List (String × Scalar)) : Table :=
  let id := table.nextId
  { table with rows := table.rows ++ [⟨id, table.newValues id given⟩] }

end Table

namespace Test

def holds (table : Table) (row : StoredRow) : Test → Except DatabaseError Bool
  | .equals column operand =>
    (table.cell row column).map (·.equalsStored (table.operandFor column operand))
  | .member column operands =>
    (table.cell row column).map fun value =>
      operands.any fun operand => value.equalsStored (table.operandFor column operand)
  | .isNull column => (table.cell row column).map Scalar.isNull
  | .notNull column => (table.cell row column).map (!·.isNull)

end Test

namespace Table

def satisfies (table : Table) (tests : List Test) (row : StoredRow) :
    Except DatabaseError Bool :=
  tests.foldlM (fun all test => do return all && (← test.holds table row)) true

def matching (table : Table) (tests : List Test) : Except DatabaseError (List StoredRow) :=
  table.rows.filterM (table.satisfies tests)

def update (table : Table) (ids : List Int) (changes : List (String × Scalar)) : Table :=
  let change (row : StoredRow) : StoredRow :=
    { row with
      values := (table.columns.zip row.values).map fun (column, value) =>
        ((changes.lookup column).map Scalar.stored).getD value }
  { table with rows := table.rows.map fun row => if ids.contains row.id then change row else row }

def delete (table : Table) (ids : List Int) : Table :=
  { table with rows := table.rows.filter fun row => !ids.contains row.id }

end Table

end Memory

end SqlAssembly
