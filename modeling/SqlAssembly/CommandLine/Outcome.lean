import SqlAssembly.CommandLine.Command
import SqlAssembly.CommandLine.Printing
import SqlAssembly.Json.Reader
import SqlAssembly.Session.Log
import SqlAssembly.Session.Reading

/-! # Running commands

A command is carried out over an engine.  It prints its results and the entries of the log that are
shown, those of the engine among them.  Its outcome is all of that text, or a failure with its
causes; what is printed in front of a failure is told by `Invocation.print`.

* `StatementRequest.steps` — the steps of the query that a request describes.
* `report` — what is printed of a result set.
* `Invocation.print` — what a command prints until it ends or fails.
* `Invocation.outcome`, `outcomeOf` — the outcome of a command, and of arguments.
-/

namespace SqlAssembly.CommandLine

inductive Outcome where
  | printed (text : String)
  | failed (failure : Failure)
  -- The arguments are wrong.
  | misused
  -- A description of the arguments is asked for.
  | help
  deriving DecidableEq, Repr

/-! ## Queries -/

/-- The value that an argument stands for: what it says as JSON, and itself otherwise. -/
def argumentValue (argument : String) : Value :=
  match Json.read? argument with
  | some json => .ofJson json
  | none => .scalar (.text argument)

def Target.steps (target : Target) : List Step :=
  [.setTable target.table]
    ++ target.conditions.map (fun c => Step.filterValue (argumentValue c))
    ++ target.alternatives.flatMap
      (fun c => [Step.regroup .or, Step.filterValue (argumentValue c)])
    ++ target.order.map Step.order
    ++ target.groups.map Step.group
    ++ (target.limit.map Step.limit).toList
    ++ (target.offset.map Step.offset).toList

def payload (name argument : String) : Except Failure Input :=
  match Input.ofValue (argumentValue argument) with
  | .ok input => .ok input
  | .error error => .error (.within ("invalid --" ++ name) (.ofSession (.assembly error)))

def riskySteps (risky : Bool) : List Step :=
  if risky then [.risky] else []

def insertStep (rows : Input) : InsertMode → Step
  | .insert => .insert rows
  | .replace => .replace rows
  | .ignore => .insertIgnore rows
  | .upsert => .insertUpdate rows

def StatementRequest.steps : StatementRequest → Except Failure (List Step)
  | .select target columns =>
    .ok (target.steps ++ if columns.isEmpty then [] else [.select (.columns columns)])
  | .insert table data mode => do
    let rows ← payload "data" data
    return [.setTable table, insertStep rows mode]
  | .update target changes risky => do
    let changes ← payload "set" changes
    return target.steps ++ [.update changes] ++ riskySteps risky
  | .delete target risky => .ok (target.steps ++ [.delete] ++ riskySteps risky)

/-! ## Output -/

def changeEntry (count : Nat) : LogEntry := { level := .info, message := Text.ofNat count ++ " row(s) affected" }

def identityEntry (id : Int) : LogEntry := ⟨.debug, "Last insert id", [("id", Text.ofInt id)]⟩

/-- What is printed of a result set: its rows, or the number of rows changed where it has
no columns. -/
def report (verbose : Bool) (result : ResultSet) : List Printed :=
  if result.columns.isEmpty then
    shown verbose (changeEntry result.affected :: result.lastId.toList.map identityEntry)
  else [.text ((Json.array (result.fetchAll.1.map Row.toJson)).pretty ++ "\n")]

/-- The printed form of a statement: its text, its parameters and, when more is asked for,
an entry of the log that shows its text with the parameters in place. -/
def rendered (verbose : Bool) (statement : Statement) : List Printed :=
  .text (statement.sql ++ "\n")
    :: .text ((Json.array (statement.params.map Scalar.toJson)).compact ++ "\n")
    :: shown verbose [{ level := .debug, message := statement.inline }]

/-! ## Commands -/

def orFail {α : Type} (result : Except SessionError α) : Printing α :=
  .silently (result.mapError .ofSession)

def render (i : Invocation) (request : StatementRequest) : Printing Unit := do
  let dialect ← orFail (Dialect.ofDriver i.dialect i.mode)
  let steps ← .silently request.steps
  let statement ← orFail (((Query.start dialect).extend steps).build.mapError .assembly)
  .write (rendered i.verbose statement)

variable {World Pool : Type}

/-- A session over the database of an invocation.  Nothing is opened for a driver that is refused. -/
def openSession (engine : Engine World Pool) (world : World) (i : Invocation) :
    Printing (Session (Connection World Pool)) :=
  let info := ConnectionInfo.ofUrl i.database
  let opening :=
    match Session.refusedDriver? info with
    | some _ => []
    | none => engine.openingLog info.candidates world
  { items := shown i.verbose opening
    result :=
      (Session.connect engine info { mode := i.mode } world).mapError fun error =>
        .within ("failed to connect to " ++ i.database) (.ofSession error) }

def reportRun (engine : Engine World Pool) (verbose : Bool) (session : Session (Connection World Pool))
    (assembled : Except AssemblyError Statement) : Printing Unit := do
  let statement ← orFail (assembled.mapError .assembly)
  .write (shown verbose (engine.runLog session.state statement))
  let result ← orFail (session.run statement).1
  .write (report verbose result)

/-- The parameters given with SQL text: the elements of a list, or one value. -/
def execParams : Option String → List Value
  | none => []
  | some argument =>
    match argumentValue argument with
    | .list values => values
    | other => [other]

def Invocation.print (engine : Engine World Pool) (world : World) (i : Invocation) : Printing Unit :=
  match i.command with
  | .render request => render i request
  | .run request => do
    let session ← openSession engine world i
    let steps ← .silently request.steps
    reportRun engine i.verbose session (session.begin.extend steps).build
  | .quote value => do
    let session ← openSession engine world i
    .write (shown i.verbose (engine.quoteLog session (argumentValue value)))
    let quoted ← orFail (session.quoteValue (argumentValue value)).1
    .write [.text (quoted ++ "\n")]
  | .exec sql params => do
    let session ← openSession engine world i
    let source := FragmentSource.parts [.sql sql, .params (execParams params)]
    reportRun engine i.verbose session ((Fragment.conform source .newline).map Statement.raw)

/-- The outcome of a command, with the log in a layout. -/
def Invocation.outcome (engine : Engine World Pool) (world : World) (i : Invocation)
    (layout : LogEntry → String := LogEntry.line) : Outcome :=
  let printing := i.print engine world
  match printing.result with
  | .ok () => .printed (printedText layout printing.items)
  | .error failure => .failed failure

def versionText : String := "fragsql 0.1.0\n"

def outcomeOf (engine : Engine World Pool) (world : World) (arguments : List String)
    (layout : LogEntry → String := LogEntry.line) : Outcome :=
  match Invocation.read arguments with
  | .ok invocation => invocation.outcome engine world layout
  | .error .usage => .misused
  | .error .help => .help
  | .error .version => .printed versionText

end SqlAssembly.CommandLine
