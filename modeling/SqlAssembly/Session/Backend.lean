import SqlAssembly.Connection.Error
import SqlAssembly.ResultSet

/-! # Backends

A backend runs finished statements.  It is given by what each of its operations answers in
a state and by the state after it, so a session can be run over a database, over a script
of answers, or over any backend at all.

* `Backend` — the operations.
* `Backend.executeRetrying` — running a statement with one reconnection.
-/

namespace SqlAssembly

/-- Something that runs statements.  Parameters stand for the placeholders of a statement
from left to right. -/
structure Backend (State : Type) where
  driver : String
  execute : State → String → List Scalar → Except BackendError ResultSet × State
  quoteLiteral : State → String → Except BackendError String × State
  reconnect : State → Except BackendError Unit × State

namespace Backend

variable {State : Type}

/-- Runs a statement.  After a lost connection it reconnects and runs the statement once
more; a failure to reconnect is the answer then. -/
def executeRetrying (backend : Backend State) (state : State) (sql : String)
    (params : List Scalar) : Except BackendError ResultSet × State :=
  match backend.execute state sql params with
  | (.error (.connection _), lost) =>
    match backend.reconnect lost with
    | (.ok (), fresh) => backend.execute fresh sql params
    | (.error error, failed) => (.error error, failed)
  | answer => answer

end Backend

end SqlAssembly
