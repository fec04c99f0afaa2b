import SqlAssembly.Session.Backend

/-! # Scripted backends

A scripted backend answers from three queues, one for each operation, and records the
calls it receives.  When a queue is used up the operation succeeds with nothing to tell.
It shows what a session asks of its backend.
-/

namespace SqlAssembly

inductive BackendCall where
  | execute (sql : String) (params : List Scalar)
  | quote (text : String)
  | reconnect
  deriving DecidableEq, Repr

/-- The answers still to be given, and the calls received so far, last first. -/
structure Script where
  responses : List (Except BackendError ResultSet) := []
  -- The outcome of quoting; a text that can be quoted is put in angle brackets.
  quotes : List (Except BackendError Unit) := []
  reconnects : List (Except BackendError Unit) := []
  calls : List BackendCall := []

namespace Script

def next {α : Type} (default : α) (queue : List (Except BackendError α)) :
    Except BackendError α × List (Except BackendError α) :=
  (queue.headD (.ok default), queue.tail)

def record (script : Script) (call : BackendCall) : Script :=
  { script with calls := call :: script.calls }

def takeCalls (script : Script) : List BackendCall × Script :=
  (script.calls.reverse, { script with calls := [] })

/-- The backend that answers from a script, under the name of a driver. -/
def backend (driver : String) : Backend Script where
  driver := driver
  execute script sql params :=
    let (answer, left) := next ResultSet.empty script.responses
    (answer, { script.record (.execute sql params) with responses := left })
  quoteLiteral script text :=
    let (answer, left) := next () script.quotes
    (answer.map fun () => "<" ++ text ++ ">", { script.record (.quote text) with quotes := left })
  reconnect script :=
    let (answer, left) := next () script.reconnects
    (answer, { script.record .reconnect with reconnects := left })

end Script

end SqlAssembly
