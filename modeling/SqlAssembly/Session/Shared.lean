import SqlAssembly.Session.Basic

/-! # Sessions with several callers

Callers share a session, and a caller that quotes a text gives it up between the three steps
of quoting: after looking into the cache, and while the backend is asked.  So the steps of
several requests come between each other, in any order.

* `QuoteRequest.advance` — the next step of a request.
* `SharedSession.run` — a session with its requests, after a sequence of events.
-/

namespace SqlAssembly

inductive QuoteStage where
  | begun
  -- The cache does not hold the text.
  | missed (text : String)
  -- The backend has quoted the text, and the cache has not been told yet.
  | answered (text quoted : String)
  | finished (outcome : Except SessionError String)

structure QuoteRequest where
  scalar : Scalar
  stage : QuoteStage := .begun

variable {State : Type}

def QuoteRequest.advance (request : QuoteRequest) (s : Session State) :
    QuoteRequest × Session State :=
  match request.stage with
  | .begun =>
    match request.scalar with
    | .text text =>
      match s.quotedInCache? text with
      | some quoted => ({ request with stage := .finished (.ok quoted) }, s)
      | none => ({ request with stage := .missed text }, s)
    | other => ({ request with stage := .finished (.ok other.literal) }, s)
  | .missed text =>
    match s.requestQuote text with
    | (.ok quoted, asked) => ({ request with stage := .answered text quoted }, asked)
    | (.error e, asked) => ({ request with stage := .finished (.error e) }, asked)
  | .answered text quoted =>
    ({ request with stage := .finished (.ok quoted) }, s.keepQuote text quoted)
  | .finished _ => (request, s)

/-- A session with the requests that callers have made, in the order in which they came. -/
structure SharedSession (State : Type) where
  session : Session State
  requests : List QuoteRequest

inductive SharedEvent (State : Type) where
  -- A caller makes a request.
  | request (scalar : Scalar)
  -- The request at an index takes its next step.
  | advance (index : Nat)
  -- The state of the backend changes, whatever the reason.
  | drift (state : State)

namespace SharedSession

/-- A session that nobody has used yet, with a cache of its own. -/
def fresh (s : Session State) (capacity maxBytes : Nat) : SharedSession State :=
  ⟨{ s with cache := .empty capacity maxBytes }, []⟩

/-- The shared session after an event.  An index without a request changes nothing. -/
def handle (shared : SharedSession State) : SharedEvent State → SharedSession State
  | .request scalar => { shared with requests := shared.requests ++ [{ scalar := scalar }] }
  | .advance index =>
    match shared.requests[index]? with
    | some request =>
      let (request, session) := request.advance shared.session
      ⟨session, shared.requests.set index request⟩
    | none => shared
  | .drift state => { shared with session := { shared.session with state := state } }

def run (shared : SharedSession State) (events : List (SharedEvent State)) : SharedSession State :=
  events.foldl handle shared

end SharedSession

end SqlAssembly
