import SqlAssembly.Engine

/-! # What is logged of a session

Opening a connection and running a statement leave entries in the log: the program's own, and
between them those of the engine.  A run goes on when the placeholders of its statement and the
parameters differ in number, and when the connection is lost at the first try; either is warned of.

* `Engine.openingLog` — the entries of trying endpoints in order.
* `Engine.runLog` — the entries of running a statement.
* `Engine.quoteLog` — the entries of quoting a value.
-/

namespace SqlAssembly

/-- The warning that placeholders and parameters differ in number. -/
def Statement.mismatch? (statement : Statement) : Option LogEntry :=
  if statement.fragment.placeholders = statement.params.length then none
  else some
    { level := .warn
      message := "Placeholder count does not match parameter count"
      fields :=
        [("placeholders", Text.ofNat statement.fragment.placeholders),
         ("params", Text.ofNat statement.params.length), ("sql", statement.sql)] }

def Statement.announcement (statement : Statement) : LogEntry :=
  ⟨.debug, "Executing SQL", [("sql", statement.sql), ("params", Text.ofNat statement.params.length)]⟩

def BackendError.lossWarning (error : BackendError) : LogEntry :=
  ⟨.warn, "Connection lost, reconnecting and retrying once", [("error", error.message)]⟩

namespace Endpoint

def skipWarning (endpoint : Endpoint) : LogEntry :=
  ⟨.warn, "Skipping non-sqlite backup", [("url", endpoint.url), ("driver", endpoint.driver)]⟩

def failureWarning (endpoint : Endpoint) (error : DatabaseError) : LogEntry :=
  ⟨.warn, "Connection failed", [("url", endpoint.url), ("error", error.message)]⟩

def successNote (endpoint : Endpoint) : LogEntry := ⟨.debug, "Connected", [("url", endpoint.url)]⟩

end Endpoint

namespace Engine

variable {World Pool : Type}

def openingLog (engine : Engine World Pool) : List Endpoint → World → List LogEntry
  | [], _ => []
  | endpoint :: rest, world =>
    if endpoint.isTried then
      engine.log.opening endpoint.url world ++
        match engine.openUrl endpoint.url world with
        | (.ok _, _) => [endpoint.successNote]
        | (.error error, world) => endpoint.failureWarning error :: engine.openingLog rest world
    else endpoint.skipWarning :: engine.openingLog rest world

/-- The entries of a run once it has been announced.  There is a second try only on a connection
that was lost and could be opened again. -/
def attemptsLog (engine : Engine World Pool) (connection : Connection World Pool) (sql : String)
    (params : List Scalar) : List LogEntry :=
  engine.log.executing connection.pool sql params ++
    match engine.answer connection sql params with
    | (.error (.connection text), lost) =>
      (BackendError.connection text).lossWarning ::
        engine.openingLog lost.info.candidates lost.world ++
          match engine.reopen lost with
          | (.ok (), fresh) => engine.log.executing fresh.pool sql params
          | (.error _, _) => []
    | _ => []

def runLog (engine : Engine World Pool) (connection : Connection World Pool)
    (statement : Statement) : List LogEntry :=
  statement.mismatch?.toList ++
    statement.announcement :: engine.attemptsLog connection statement.sql statement.params

/-- Only texts are quoted by the engine, and only those that the cache does not hold. -/
def quoteLog (engine : Engine World Pool) (session : Session (Connection World Pool)) :
    Value → List LogEntry
  | .scalar (.text text) =>
    match session.quotedInCache? text with
    | some _ => [⟨.trace, "Quote cache hit", [("literal", text)]⟩]
    | none => engine.log.quoting session.state.pool text
  | _ => []

end Engine

end SqlAssembly
