import SqlAssembly.Session.Basic

/-! # Reading results through a session

Each reading runs a query, altered where only part of its result is wanted, and takes what
it needs from the result set.  Where one row is wanted a query over a table is limited to
one row unless it has a limit already.

* `row`, `rows`, `numeric`, `numerics`, `value`, `column` — rows and values.
* `exists?`, `count` — questions about the rows.
* `keyToRecord`, `keyToColumn` — rows under the text of a key column.
* `insert`, `changed` — the outcome of writes.
-/

namespace SqlAssembly

namespace Query

/-- The query limited to one row, where it has a table and no limit. -/
def singleRow (q : Query) : Query :=
  if q.draft.targetsTable && !q.draft.hasLimit then q.extend [.limit 1] else q

/-- The query that tells whether there are rows: over a table it selects a constant. -/
def probe (q : Query) : Query :=
  if q.draft.targetsTable then q.extend [.select (.expression "1")] else q

def counting (q : Query) : Query :=
  q.extend [.select (.expression "COUNT(*)")]

end Query

namespace ResultSet

/-- The rows under the text of a key column; of several rows with one key the last
counts. -/
def byKey (result : ResultSet) (key : String) : Except SessionError (Fields Row) := do
  let pairs ← result.fetchAll.1.mapM fun row =>
    match row.get? key with
    | some value => .ok (value.plain, row)
    | none => .error (.missingColumn key)
  return .ofList pairs

/-- The key and the value of one row.  The value is taken out of the row before the key
is read, so that a column which is both leaves NULL as the key.  A row that ends in front
of one of the two columns stops the program, and `shortRow` stands for the stop. -/
def keyedValue (keyIndex valueIndex : Nat) (values : List Scalar) :
    Except SessionError (String × Scalar) :=
  match values[valueIndex]?, (values.set valueIndex .null)[keyIndex]? with
  | some value, some key => .ok (key.plain, value)
  | _, _ => .error .shortRow

def requireColumn (result : ResultSet) (column : String) : Except SessionError Nat :=
  match result.columnIndex? column with
  | some index => .ok index
  | none => .error (.missingColumn column)

/-- The values of one column under the text of another.  Without rows no column is
needed. -/
def columnByKey (result : ResultSet) (key column : String) :
    Except SessionError (Fields Scalar) :=
  if result.remaining = 0 then .ok .empty
  else do
    let keyIndex ← result.requireColumn key
    let valueIndex ← result.requireColumn column
    return .ofList (← result.fetchAllValues.1.mapM (keyedValue keyIndex valueIndex))

end ResultSet

namespace Session

variable {State : Type}

def row (s : Session State) (q : Query) : Answer State (Option Row) :=
  (s.query q.singleRow).map (·.fetchRow.1)

def numeric (s : Session State) (q : Query) : Answer State (Option (List Scalar)) :=
  (s.query q.singleRow).map (·.fetchValues.1)

def rows (s : Session State) (q : Query) : Answer State (List Row) :=
  (s.query q).map (·.fetchAll.1)

def numerics (s : Session State) (q : Query) : Answer State (List (List Scalar)) :=
  (s.query q).map (·.fetchAllValues.1)

def value (s : Session State) (q : Query) : Answer State (Option Scalar) :=
  (s.numeric q).map fun values => values.bind List.head?

def column (s : Session State) (q : Query) : Answer State (List Scalar) :=
  (s.query q).map fun result => (result.fetchColumn 0).1

def exists? (s : Session State) (q : Query) : Answer State Bool :=
  (s.row q.probe).map Option.isSome

def keyToRecord (s : Session State) (q : Query) (key : String) : Answer State (Fields Row) :=
  (s.query q).check (·.byKey key)

def keyToColumn (s : Session State) (q : Query) (key column : String) :
    Answer State (Fields Scalar) :=
  (s.query q).check (·.columnByKey key column)

/-- The number that a counting query has given; no row counts as zero. -/
def countOf : Option Scalar → Except SessionError Int
  | none => .ok 0
  | some (.int n) => .ok n
  | some other => .error (.unexpectedCount other)

def count (s : Session State) (q : Query) : Answer State Int :=
  (s.value q.counting).check countOf

def insert (s : Session State) (q : Query) : Answer State (Option Int) :=
  (s.query q).map (·.lastId)

def changed (s : Session State) (q : Query) : Answer State Nat :=
  (s.query q).map (·.affected)

end Session

end SqlAssembly
