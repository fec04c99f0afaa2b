import SqlAssembly.Connection.Error

/-! # Where to connect

A connection is described by a primary endpoint and any number of backups, which are
tried in order.  The driver of an endpoint is the scheme of its URL unless it is named.

* `Endpoint`, `ConnectionInfo` — the description.
* `firstOpen` — opens the first endpoint that can be opened.
* `Dialect.ofDriver` — the dialect of a driver.
-/

namespace SqlAssembly

structure Endpoint where
  url : String
  driver : String
  deriving DecidableEq, Repr

namespace Endpoint

/-- The text before the first colon of a URL in lower case, empty without a colon. -/
def scheme (url : String) : String :=
  let (before, rest) := url.toList.span (· != ':')
  if rest.isEmpty then "" else Text.asciiLower (String.ofList before)

def ofUrl (url : String) : Endpoint := ⟨url, scheme url⟩

/-- The one driver whose databases can be opened here. -/
def nativeDriver : String := "sqlite"

/-- Whether the endpoint is tried at all: its driver is the native one or unknown. -/
def isTried (endpoint : Endpoint) : Bool :=
  endpoint.driver = "" || endpoint.driver = nativeDriver

end Endpoint

structure ConnectionInfo where
  primary : Endpoint
  backups : List Endpoint
  deriving DecidableEq, Repr

namespace ConnectionInfo

def ofUrl (url : String) : ConnectionInfo := ⟨.ofUrl url, []⟩

def withDriver (info : ConnectionInfo) (driver : String) : ConnectionInfo :=
  { info with primary := { info.primary with driver := driver } }

/-- Makes another connection the backup, together with its own backups. -/
def withBackup (info backup : ConnectionInfo) : ConnectionInfo :=
  { info with backups := backup.primary :: backup.backups }

def candidates (info : ConnectionInfo) : List Endpoint :=
  info.primary :: info.backups

end ConnectionInfo

/-! ## Opening -/

/-- A way to open URLs, in a world that each attempt may change.  An attempt gives a pool or an error. -/
abbrev Opener (World Pool : Type) (Error : Type := DatabaseError) :=
  String → World → Except Error Pool × World

/-- Opens the first endpoint that can be opened and tries none after it.  Where none can,
the error of the last attempt is the error; `last` is that of the attempts before. -/
def firstOpen {World Pool Error : Type} (opener : Opener World Pool Error) :
    (last : Error) → List Endpoint → World → Except Error Pool × World
  | last, [], world => (.error last, world)
  | last, endpoint :: rest, world =>
    if endpoint.isTried then
      match opener endpoint.url world with
      | (.ok pool, world) => (.ok pool, world)
      | (.error error, world) => firstOpen opener error rest world
    else firstOpen opener last rest world

namespace ConnectionInfo

/-- Opens a connection.  Where every endpoint is passed over there is nothing to use,
which is the error of a closed connection. -/
def openWith {World Pool : Type} (info : ConnectionInfo) (opener : Opener World Pool)
    (world : World) : Except DatabaseError Pool × World :=
  firstOpen opener .closed info.candidates world

end ConnectionInfo

/-! ## Dialects of drivers -/

/-- Which quotes a MySQL server reads around identifiers. -/
inductive QuoteMode where
  -- Double quotes.
  | ansi
  -- Backticks.
  | native
  deriving DecidableEq, Repr

/-- The dialect of a driver, whose name is read in any case. -/
def Dialect.ofDriver (driver : String) (mode : QuoteMode) : Except SessionError Dialect :=
  match Text.asciiLower driver with
  | "sqlite" => .ok .sqlite
  | "sqlite3" => .ok .sqlite
  | "mysql" => .ok mysqlFamily
  | "mariadb" => .ok mysqlFamily
  | "generic" => .ok .generic
  | "ansi" => .ok .generic
  | other => .error (.unsupportedDriver other)
where
  mysqlFamily : Dialect :=
    match mode with
    | .ansi => .mysqlAnsi
    | .native => .mysql

end SqlAssembly
