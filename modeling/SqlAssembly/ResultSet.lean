import SqlAssembly.Scalar

/-! # Result sets

What a database answers to a statement: rows under column names, or the number of rows a
write has changed.  A result set is read from front to back.  Each reading takes rows away
and gives back the result set without them, so that a row is read once.

* `Row` — the values of one row beside the column names.
* `ResultSet.fetchRow`, `fetchValues` — the next row.
* `ResultSet.fetchAll`, `fetchAllValues`, `fetchColumn` — all rows that are left.
-/

namespace SqlAssembly

/-- The values of one row, with the column names of the result set it comes from. -/
structure Row where
  columns : List String
  values : List Scalar
  deriving DecidableEq, Repr

namespace Row

def getIndex? (row : Row) (index : Nat) : Option Scalar :=
  row.values[index]?

/-- The value under a column name.  Of several columns with one name the first counts. -/
def get? (row : Row) (column : String) : Option Scalar :=
  (row.columns.idxOf? column).bind row.getIndex?

def size (row : Row) : Nat := row.values.length

def isEmpty (row : Row) : Bool := row.values.isEmpty

/-- The row as a JSON object.  Columns and values are paired up to the shorter of the
two, and a column name may stand for several members. -/
def toJson (row : Row) : Json :=
  .object ((row.columns.zip row.values).map fun (column, value) => (column, value.toJson))

def json (row : Row) : String :=
  row.toJson.compact

end Row

/-- The answer to a statement, with the rows that have not been read yet. -/
structure ResultSet where
  columns : List String := []
  rows : List (List Scalar) := []
  affected : Nat := 0
  -- The identity of the row that was inserted last, if there is one.
  lastId : Option Int := none
  deriving DecidableEq, Repr

namespace ResultSet

def empty : ResultSet := {}

def ofRows (columns : List String) (rows : List (List Scalar)) : ResultSet :=
  { columns := columns, rows := rows }

def ofWrite (affected : Nat) (lastId : Option Int) : ResultSet :=
  { affected := affected, lastId := lastId }

def remaining (result : ResultSet) : Nat := result.rows.length

/-- The position of a column.  Of several columns with one name the first counts. -/
def columnIndex? (result : ResultSet) (column : String) : Option Nat :=
  result.columns.idxOf? column

def fetchValues (result : ResultSet) : Option (List Scalar) × ResultSet :=
  (result.rows.head?, { result with rows := result.rows.tail })

def fetchRow (result : ResultSet) : Option Row × ResultSet :=
  let (values, rest) := result.fetchValues
  (values.map (⟨result.columns, ·⟩), rest)

def fetchAllValues (result : ResultSet) : List (List Scalar) × ResultSet :=
  (result.rows, { result with rows := [] })

def fetchAll (result : ResultSet) : List Row × ResultSet :=
  let (rows, rest) := result.fetchAllValues
  (rows.map (⟨result.columns, ·⟩), rest)

/-- Reads the values at one position of all rows that are left.  A row that is too short
has NULL there. -/
def fetchColumn (result : ResultSet) (index : Nat) : List Scalar × ResultSet :=
  let (rows, rest) := result.fetchAllValues
  (rows.map fun values => values[index]?.getD .null, rest)

end ResultSet

end SqlAssembly
