import SqlAssembly.Connection.Basic
import SqlAssembly.Query.Assembly
import SqlAssembly.Session.Backend
import SqlAssembly.Session.Cache

/-! # Sessions

A session assembles queries in the dialect of its backend, runs the statements, and
remembers the last one it handed over.  A query that cannot be assembled never reaches
the backend and leaves the session as it was.

* `Session.start` — a session over a backend.
* `Session.run`, `query`, `exec` — running statements, queries and SQL text.
* `Session.quote` — quoting a scalar as a literal, with the cache in front of the backend.
-/

namespace SqlAssembly

structure SessionOptions where
  mode : QuoteMode := .ansi
  cacheCapacity : Nat := 1024
  cacheMaxBytes : Nat := 250
  deriving DecidableEq, Repr

structure Session (State : Type) where
  backend : Backend State
  state : State
  dialect : Dialect
  cache : LiteralCache
  -- The statement handed to the backend last.
  last : Option Statement

/-- The result of an operation, and the session after it. -/
abbrev Answer (State α : Type) := Except SessionError α × Session State

namespace Answer

variable {State α β : Type}

def map (f : α → β) (answer : Answer State α) : Answer State β :=
  (answer.1.map f, answer.2)

/-- The answer with its result checked by a function that may refuse it. -/
def check (f : α → Except SessionError β) (answer : Answer State α) : Answer State β :=
  (answer.1.bind f, answer.2)

@[simp] theorem map_error (f : α → β) (e : SessionError) (s : Session State) :
    map f (.error e, s) = (.error e, s) := rfl

@[simp] theorem check_error (f : α → Except SessionError β) (e : SessionError) (s : Session State) :
    check f (.error e, s) = (.error e, s) := rfl

end Answer

namespace Session

variable {State : Type}

def start (backend : Backend State) (state : State) (options : SessionOptions) :
    Except SessionError (Session State) := do
  let dialect ← Dialect.ofDriver backend.driver options.mode
  let cache := LiteralCache.empty options.cacheCapacity options.cacheMaxBytes
  return ⟨backend, state, dialect, cache, none⟩

def begin (s : Session State) : Query := .start s.dialect

/-! ## Running statements -/

/-- Runs a finished statement.  A failure carries the statement. -/
def run (s : Session State) (statement : Statement) : Answer State ResultSet :=
  let (outcome, state) := s.backend.executeRetrying s.state statement.sql statement.params
  (outcome.mapError (.execution statement.sql statement.params),
    { s with state := state, last := some statement })

def runAssembled (s : Session State) (assembled : Except AssemblyError Statement) :
    Answer State ResultSet :=
  match assembled with
  | .ok statement => s.run statement
  | .error error => (.error (.assembly error), s)

def query (s : Session State) (q : Query) : Answer State ResultSet :=
  s.runAssembled q.build

/-- Runs SQL text with its parameters as it is. -/
def exec (s : Session State) (source : FragmentSource) : Answer State ResultSet :=
  s.runAssembled ((Fragment.conform source .newline).map Statement.raw)

def sql (s : Session State) (source : FragmentSource) : Except SessionError Query :=
  match Fragment.conform source .newline with
  | .ok f => .ok (s.begin.extend [.filter (.fragment f) {}])
  | .error error => .error (.assembly error)

/-! ## Quoting

Quoting a text takes three steps: looking into the cache, asking the backend, and keeping
the answer.  They are separate so that the steps of several requests may come between
each other. -/

def quotedInCache? (s : Session State) (text : String) : Option String :=
  s.cache.get? text

def requestQuote (s : Session State) (text : String) : Answer State String :=
  let (outcome, state) := s.backend.quoteLiteral s.state text
  (outcome.mapError (.execution "quote literal" [.text text]), { s with state := state })

def keepQuote (s : Session State) (text quoted : String) : Session State :=
  { s with cache := s.cache.insert text quoted }

def quoteText (s : Session State) (text : String) : Answer State String :=
  match s.quotedInCache? text with
  | some quoted => (.ok quoted, s)
  | none =>
    match s.requestQuote text with
    | (.ok quoted, asked) => (.ok quoted, asked.keepQuote text quoted)
    | refused => refused

/-- A scalar as a literal.  Only texts are quoted by the backend. -/
def quote (s : Session State) : Scalar → Answer State String
  | .text text => s.quoteText text
  | other => (.ok other.literal, s)

def quoteValue (s : Session State) (value : Value) : Answer State String :=
  match value.toScalar with
  | .ok scalar => s.quote scalar
  | .error error => (.error (.assembly error), s)

end Session

end SqlAssembly
