import SqlAssembly.Session.Basic

/-! # Recorded backends

What a session asks of its backend is seen by putting a recorder between the two.  The
recorder notes each call together with its answer and changes nothing else, so it can be put
in front of every backend.

* `Exchange` — a call with its answer.
* `Backend.recording`, `Session.recorded` — a backend behind a recorder, and a session over it.
* `Session.log` — what the backend of a recorded session was asked, with its answers.
-/

namespace SqlAssembly

/-- A call of a backend with its answer. -/
inductive Exchange where
  | execute (sql : String) (params : List Scalar) (answer : Except BackendError ResultSet)
  | quote (text : String) (answer : Except BackendError String)
  | reconnect (answer : Except BackendError Unit)

variable {State : Type}

/-- A backend that keeps, beside its state, the calls it has answered, in order. -/
def Backend.recording (backend : Backend State) : Backend (State × List Exchange) where
  driver := backend.driver
  execute := fun (state, log) sql params =>
    let (answer, after) := backend.execute state sql params
    (answer, after, log ++ [.execute sql params answer])
  quoteLiteral := fun (state, log) text =>
    let (answer, after) := backend.quoteLiteral state text
    (answer, after, log ++ [.quote text answer])
  reconnect := fun (state, log) =>
    let (answer, after) := backend.reconnect state
    (answer, after, log ++ [.reconnect answer])

namespace Session

/-- A session whose backend has recorded `log` so far. -/
def recorded (s : Session State) (log : List Exchange) : Session (State × List Exchange) where
  backend := s.backend.recording
  state := (s.state, log)
  dialect := s.dialect
  cache := s.cache
  last := s.last

/-- What the backend of a recorded session has answered so far. -/
def log (s : Session (State × List Exchange)) : List Exchange := s.state.2

end Session

end SqlAssembly
