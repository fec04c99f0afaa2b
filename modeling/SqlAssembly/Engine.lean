import SqlAssembly.Connection.Basic
import SqlAssembly.Keywords
import SqlAssembly.Log
import SqlAssembly.Session.Basic

/-! # Databases behind a session

An engine opens databases by URL and runs statements in them.  A session over an engine
keeps the open database together with the description of the connection, so that it can be
opened again; a lost connection is replaced only by one that could be opened.  What becomes of a pool
that is replaced is left to the engine, since nothing is asked of that pool any more.

* `Engine` — the operations of a database.
* `Engine.backend` — an engine as the backend of a session.
* `Session.connect`, `connectAny`, `adopt` — sessions over an engine.
-/

namespace SqlAssembly

/-- What an engine answers to a statement: rows, each with its column names, for one that gives
rows, and the outcome of a write for any other. -/
structure Reply where
  rows : List Row := []
  affected : Nat := 0
  lastId : Int := 0
  deriving DecidableEq, Repr

namespace Reply

/-- The column names, which only the first row tells. -/
def columns (reply : Reply) : List String :=
  (reply.rows.head?.map Row.columns).getD []

def toResultSet (reply : Reply) (givesRows : Bool) : ResultSet :=
  if givesRows then .ofRows reply.columns (reply.rows.map Row.values)
  else .ofWrite reply.affected (some reply.lastId)

end Reply

/-- What an engine writes to the log of its own accord, before each of its answers. -/
structure EngineLog (World Pool : Type) where
  opening : String → World → List LogEntry := fun _ _ => []
  executing : Pool → String → List Scalar → List LogEntry := fun _ _ _ => []
  quoting : Pool → String → List LogEntry := fun _ _ => []

/-- A database engine, in a world that opening may change. -/
structure Engine (World Pool : Type) where
  openUrl : Opener World Pool
  execute : Pool → String → List Scalar → Except DatabaseError Reply × Pool
  quote : Pool → String → Except DatabaseError String × Pool
  log : EngineLog World Pool := {}

structure Connection (World Pool : Type) where
  info : ConnectionInfo
  pool : Pool
  world : World

namespace Engine

variable {World Pool : Type}

/-- Runs a statement; whether it gives rows is told from its keywords. -/
def answer (engine : Engine World Pool) (connection : Connection World Pool) (sql : String)
    (params : List Scalar) : Except BackendError ResultSet × Connection World Pool :=
  let (outcome, pool) := engine.execute connection.pool sql params
  ((outcome.map (·.toResultSet (returnsRows sql))).mapError .ofDatabase,
    { connection with pool := pool })

def answerQuote (engine : Engine World Pool) (connection : Connection World Pool)
    (text : String) : Except BackendError String × Connection World Pool :=
  let (outcome, pool) := engine.quote connection.pool text
  (outcome.mapError .ofDatabase, { connection with pool := pool })

/-- Opens the database again.  The open one is kept when that fails. -/
def reopen (engine : Engine World Pool) (connection : Connection World Pool) :
    Except BackendError Unit × Connection World Pool :=
  match connection.info.openWith engine.openUrl connection.world with
  | (.ok pool, world) => (.ok (), { connection with pool := pool, world := world })
  | (.error error, world) => (.error (.ofDatabase error), { connection with world := world })

def backend (engine : Engine World Pool) : Backend (Connection World Pool) where
  driver := Endpoint.nativeDriver
  execute := engine.answer
  quoteLiteral := engine.answerQuote
  reconnect := engine.reopen

end Engine

namespace Session

variable {World Pool : Type}

def adopt (engine : Engine World Pool) (connection : Connection World Pool)
    (options : SessionOptions) : Except SessionError (Session (Connection World Pool)) :=
  Session.start engine.backend connection options

/-- A session over the first endpoint of a connection that can be opened. -/
def connectAny (engine : Engine World Pool) (info : ConnectionInfo) (options : SessionOptions)
    (world : World) : Except SessionError (Session (Connection World Pool)) :=
  match info.openWith engine.openUrl world with
  | (.ok pool, world) => adopt engine ⟨info, pool, world⟩ options
  | (.error error, _) => .error (.connect error)

/-- The driver of the primary endpoint, unless it is the native one. -/
def refusedDriver? (info : ConnectionInfo) : Option String :=
  if info.primary.driver = Endpoint.nativeDriver then none else some info.primary.driver

def connect (engine : Engine World Pool) (info : ConnectionInfo) (options : SessionOptions)
    (world : World) : Except SessionError (Session (Connection World Pool)) :=
  match refusedDriver? info with
  | some driver => .error (.unsupportedDriver driver)
  | none => connectAny engine info options world

end Session

end SqlAssembly
