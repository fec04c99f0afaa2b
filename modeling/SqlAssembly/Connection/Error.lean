import SqlAssembly.Error

/-! # Errors of databases and sessions

Three layers report failures.  A database refuses to open or to run a statement; the
backend of a session tells whether that means a lost connection or a bad statement; the
session adds the statement that failed, and its own refusals.

* `DatabaseError` — what a database reports.
* `BackendError` — the same failure, sorted by whether reconnecting may help.
* `SessionError` — the failure of an operation of a session.
-/

namespace SqlAssembly

inductive DatabaseError.Kind where
  | io
  | poolTimedOut
  | poolClosed
  | workerCrashed
  | other
  deriving DecidableEq, Repr

/-- What a database reports, in its own words. -/
structure DatabaseError where
  kind : DatabaseError.Kind
  message : String
  causes : List String := []
  deriving DecidableEq, Repr

namespace DatabaseError

/-- Whether the connection is lost, so that opening it again may help. -/
def isLost (error : DatabaseError) : Bool :=
  match error.kind with
  | .io => true
  | .poolTimedOut => true
  | .poolClosed => true
  | .workerCrashed => true
  | .other => false

/-- There is no open connection left to use; the wording is that of the library that keeps them. -/
def closed : DatabaseError := ⟨.poolClosed, "attempted to acquire a connection on a closed pool", []⟩

def refused (code : Nat) (text : String) : DatabaseError :=
  let reason := "(code: " ++ Text.ofNat code ++ ") " ++ text
  ⟨.other, "error returned from database: " ++ reason, [reason]⟩

end DatabaseError

inductive BackendError where
  -- The connection is lost; reconnecting may help.
  | connection (text : String)
  -- The statement itself failed.
  | statement (text : String)
  deriving DecidableEq, Repr

namespace BackendError

def message : BackendError → String
  | .connection text => "connection failure: " ++ text
  | .statement text => "statement failure: " ++ text

def ofDatabase (error : DatabaseError) : BackendError :=
  if error.isLost then .connection error.message else .statement error.message

end BackendError

inductive SessionError where
  -- The statement could not be assembled.
  | assembly (error : AssemblyError)
  -- The backend failed on a statement.
  | execution (sql : String) (params : List Scalar) (cause : BackendError)
  | unsupportedDriver (name : String)
  -- The database could not be opened.
  | connect (error : DatabaseError)
  -- A column asked for is not in the result set.
  | missingColumn (column : String)
  -- A count that is no integer.
  | unexpectedCount (found : Scalar)
  -- A value is read behind the end of a row.  That is no failure that is reported: it stops the
  -- program, and this stands for the stop.
  | shortRow
  deriving DecidableEq

namespace SessionError

def message : SessionError → String
  | .assembly error => error.message
  | .execution sql _ cause => cause.message ++ "\nwhile executing: " ++ sql
  | .unsupportedDriver name => "unsupported driver: " ++ name
  | .connect error => "connection error: " ++ error.message
  | .missingColumn column => "no such column in result: " ++ column
  | .unexpectedCount found => "expected integer count, got " ++ found.literal
  | .shortRow => "a row has fewer values than the result has columns"

/-- The wording of the causes behind a failure, the nearest first. -/
def causes : SessionError → List String
  | .execution _ _ cause => [cause.message]
  | .connect error => error.message :: error.causes
  | _ => []

end SessionError

end SqlAssembly
