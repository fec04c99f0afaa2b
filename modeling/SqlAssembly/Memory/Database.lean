import SqlAssembly.Memory.Selection

/-! # A database in memory

The engine in memory stands in for a database server where none is at hand.  It knows
single-table statements: creating a table, inserting rows, updating, deleting and
selecting them, and selecting constants.  The table of a statement is looked up before
anything else of it is read.

* `Database.run` — the answer to a statement and the database after it.
* `engine` — the engine, whose only database is a new one for the URL of memory.
-/

namespace SqlAssembly.Memory

/-- The tables of a database, and the number of the row inserted last. -/
structure Database where
  tables : List Table
  lastId : Int
  deriving DecidableEq, Repr

/-- The catalog of tables, which this engine keeps empty. -/
def catalog : Table :=
  { name := "sqlite_master", columns := ["type", "name", "tbl_name", "rootpage", "sql"] }

namespace Database

def empty : Database := ⟨[catalog], 0⟩

def table (db : Database) (name : String) : Except DatabaseError Table :=
  match db.tables.find? (·.name == name) with
  | some table => .ok table
  | none => .error (refusal ("no such table: " ++ name))

/-- The table that the tokens of a clause begin with, and the other tokens. -/
def leadingTable (db : Database) : List Token → Except DatabaseError (Table × List Token)
  | [] => .error (unreadable [])
  | token :: rest =>
    match token.name? with
    | some name => do return (← db.table name, rest)
    | none => .error (unreadable (token :: rest))

def setTable (db : Database) (table : Table) : Database :=
  { db with tables := db.tables.map fun other => if other.name = table.name then table else other }

def written (db : Database) (affected : Nat) : Reply × Database :=
  ({ affected := affected, lastId := db.lastId }, db)

def parenthesized? : List Token → Option (List Token)
  | .mark '(' :: rest => if rest.getLast? = some (.mark ')') then some rest.dropLast else none
  | _ => none

def create (db : Database) : List Token → Except DatabaseError (Reply × Database)
  | .word word :: name :: rest =>
    match Text.asciiUpper word, name.name?, parenthesized? rest with
    | "TABLE", some name, some columns =>
      if db.tables.any (·.name == name) then
        .error (refusal ("table " ++ name ++ " already exists"))
      else
        let definitions := (items columns).filterMap fun definition =>
          definition.head?.bind fun column =>
            column.name?.map (·, definition.tail.filterMap Token.keyword?)
        let table : Table :=
          { name := name
            columns := definitions.map Prod.fst
            key := (definitions.find? (·.2 == ["INTEGER", "PRIMARY", "KEY"])).map Prod.fst }
        .ok (written { db with tables := db.tables ++ [table] } 0)
    | _, _, _ => .error (unreadable (.word word :: name :: rest))
  | tokens => .error (unreadable tokens)

/-- One tuple of an insert, after the comma behind the tuple before it. -/
def tuple? : List Token → Option (List Scalar)
  | .mark ',' :: .mark '(' :: content => constants? content
  | .mark '(' :: content => constants? content
  | _ => none

def tuples? (tokens : List Token) : Option (List (List Scalar)) :=
  ((tokens.splitOnP (· == .mark ')')).filter (!·.isEmpty)).mapM tuple?

def insert (db : Database) (found : List ClauseTokens) :
    Except DatabaseError (Reply × Database) := do
  let (table, names) ← db.leadingTable ((clause? found "INTO").getD [])
  let values := (clause? found "VALUES").getD []
  match (parenthesized? names).bind fun names => (items names).mapM (·.head?.bind Token.name?),
      tuples? values with
  | some columns, some tuples =>
    let filled := tuples.foldl (fun table tuple => table.insert (columns.zip tuple)) table
    let added := filled.rows.drop table.rows.length
    let lastId := (added.getLast?.map StoredRow.id).getD db.lastId
    let after : Database := { db.setTable filled with lastId := lastId }
    match clause? found "RETURNING" with
    | none => return after.written added.length
    | some tokens => return (← listing filled tokens added, after)
  | _, _ => .error (unreadable values)

def assignments? (tokens : List Token) : Option (List (String × Scalar)) :=
  (items tokens).mapM fun
    | [column, .mark '=', operand] => do return (← column.name?, ← operand.constant?)
    | _ => none

def update (db : Database) (target : List Token) (found : List ClauseTokens) :
    Except DatabaseError (Reply × Database) := do
  let (table, _) ← db.leadingTable target
  let ids := (← chosenRows table found).map StoredRow.id
  let tokens := (clause? found "SET").getD []
  match assignments? tokens with
  | some changes => return (db.setTable (table.update ids changes)).written ids.length
  | none => .error (unreadable tokens)

def delete (db : Database) (found : List ClauseTokens) :
    Except DatabaseError (Reply × Database) := do
  let (table, _) ← db.leadingTable ((clause? found "FROM").getD [])
  let ids := (← chosenRows table found).map StoredRow.id
  return (db.setTable (table.delete ids)).written ids.length

def read (db : Database) (tokens : List Token) (found : List ClauseTokens) :
    Except DatabaseError (Reply × Database) := do
  match clause? found "FROM" with
  | some target =>
    let (table, _) ← db.leadingTable target
    return (← select table tokens found, db)
  | none => return (← listing unit tokens unit.rows, db)

def perform (db : Database) : List Token × List ClauseTokens →
    Except DatabaseError (Reply × Database)
  | ([], []) => .ok (db.written 0)
  | ([], ("CREATE", tokens) :: _) => db.create tokens
  | ([], ("SELECT", tokens) :: found) => db.read tokens found
  | ([], ("UPDATE", tokens) :: found) => db.update tokens found
  | ([], ("INSERT", _) :: found) => db.insert found
  | ([], ("REPLACE", _) :: found) => db.insert found
  | ([], ("DELETE", _) :: found) => db.delete found
  | ([], (word, _) :: _) => .error (unreadable [.word word])
  | (token :: _, _) => .error (unreadable [token])

/-- The answer to a statement, and the database after it.  A statement that is refused
changes nothing. -/
def run (db : Database) (sql : String) (params : List Scalar) :
    Except DatabaseError Reply × Database :=
  match db.perform (splitClauses (Token.scan sql params)) with
  | .ok (reply, after) => (.ok reply, after)
  | .error error => (.error error, db)

end Database

/-- An open database, or none after it was closed. -/
abbrev Pool := Option Database

def execute : Pool → String → List Scalar → Except DatabaseError Reply × Pool
  | none, _, _ => (.error .closed, none)
  | some db, sql, params =>
    let (outcome, after) := db.run sql params
    (outcome, some after)

def url : String := "sqlite::memory:"

/-- The engine.  Nothing but `url` can be opened. -/
def engine : Engine Unit Pool where
  openUrl target world :=
    if target = url then (.ok (some .empty), world)
    else (.error (.refused 14 "unable to open database file"), world)
  execute := execute
  quote pool text :=
    match pool with
    | none => (.error .closed, none)
    | some db => (.ok (Scalar.text text).literal, some db)

abbrev MemorySession := Session (Connection Unit Pool)

def close (s : MemorySession) : MemorySession :=
  { s with state := { s.state with pool := none } }

end SqlAssembly.Memory
