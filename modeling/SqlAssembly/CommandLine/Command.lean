import SqlAssembly.CommandLine.Arguments
import SqlAssembly.Connection.Basic
import SqlAssembly.Draft.Basic

/-! # Commands

What the command line can ask for, and how it is read from arguments.

* `StatementRequest` — a statement in the words of the command line.
* `Command` — printing a statement, running one, quoting a literal, running SQL text.
* `Invocation.read` — the command with the settings before it.
-/

namespace SqlAssembly.CommandLine

/-- The rows that a statement is about, as given. -/
structure Target where
  table : String
  -- Conditions, all of which have to hold.
  conditions : List String
  -- Conditions that each start a group of their own.
  alternatives : List String
  order : List String
  groups : List String
  limit : Option Nat
  offset : Option Nat
  deriving DecidableEq, Repr

inductive StatementRequest where
  | select (target : Target) (columns : List String)
  | insert (table : String) (data : String) (mode : InsertMode)
  | update (target : Target) (changes : String) (risky : Bool)
  | delete (target : Target) (risky : Bool)
  deriving DecidableEq, Repr

inductive Command where
  -- Prints a statement with its parameters.
  | render (request : StatementRequest)
  -- Runs a statement.
  | run (request : StatementRequest)
  -- Quotes a literal.
  | quote (value : String)
  -- Runs SQL text.
  | exec (sql : String) (params : Option String)
  deriving DecidableEq, Repr

structure Invocation where
  database : String
  dialect : String
  mode : QuoteMode
  verbose : Bool
  command : Command
  deriving DecidableEq, Repr

/-! ## Grammars -/

def helpOption : OptionSpec := ⟨"help", some 'h', .interrupting .help⟩

def statementCommands : List String := ["select", "insert", "update", "delete"]

/-- The settings in front of a command, and the commands. -/
def rootGrammar : Grammar where
  options :=
    [⟨"database", some 'd', .single .text⟩, ⟨"dialect", none, .single .text⟩,
     ⟨"native-quotes", none, .flag⟩, ⟨"verbose", some 'v', .flag⟩, helpOption,
     ⟨"version", some 'V', .interrupting .version⟩]
  positionals := 0
  commands := "render" :: statementCommands ++ ["quote", "exec", "help"]

def renderGrammar : Grammar where
  options := [helpOption]
  positionals := 0
  commands := statementCommands ++ ["help"]

def targetOptions : List OptionSpec :=
  [⟨"where", some 'w', .collecting⟩, ⟨"or-where", none, .collecting⟩,
   ⟨"order", none, .collectingAny⟩, ⟨"group", none, .collecting⟩,
   ⟨"limit", none, .single .number⟩, ⟨"offset", none, .single .number⟩, helpOption]

def selectGrammar : Grammar :=
  ⟨⟨"columns", some 'c', .collecting⟩ :: targetOptions, 1, []⟩

def insertWords : List String := ["insert", "replace", "ignore"]

def insertGrammar : Grammar :=
  ⟨[⟨"data", none, .single .text⟩, ⟨"mode", none, .single (.oneOf insertWords)⟩, helpOption], 1, []⟩

def updateGrammar : Grammar :=
  ⟨⟨"set", none, .single .text⟩ :: ⟨"risky", none, .flag⟩ :: targetOptions, 1, []⟩

def deleteGrammar : Grammar :=
  ⟨⟨"risky", none, .flag⟩ :: targetOptions, 1, []⟩

def quoteGrammar : Grammar := ⟨[helpOption], 1, []⟩

def execGrammar : Grammar := ⟨[⟨"params", some 'p', .single .text⟩, helpOption], 1, []⟩

/-! ## Asking for a description -/

def commandsWithin : String → List String
  | "render" => renderGrammar.commands
  | _ => []

/-- Whether names lead from commands to a command inside them, each name to a command
inside the one before. -/
def isCommandPath : (commands names : List String) → Bool
  | _, [] => true
  | commands, name :: rest => commands.contains name && isCommandPath (commandsWithin name) rest

/-- What comes of asking for the description of a command by its path: the arguments are
all names, and none of them is taken for an option. -/
def describing (commands names : List String) : Interruption :=
  if isCommandPath commands names then .help else .usage

/-! ## Values of options -/

/-- What is absent where it has to be given is wrong usage. -/
def require {α : Type} : Option α → Except Interruption α
  | some a => .ok a
  | none => .error .usage

def rowNumber (reading : Reading) (name : String) : Except Interruption (Option Nat) :=
  match reading.value? name with
  | none => .ok none
  | some text => do return some (← require (number? text))

def insertMode? : String → Option InsertMode
  | "insert" => some .insert
  | "replace" => some .replace
  | "ignore" => some .ignore
  | _ => none

def target (reading : Reading) : Except Interruption Target := do
  return {
    table := ← require reading.positionals.head?
    conditions := reading.values "where"
    alternatives := reading.values "or-where"
    order := reading.values "order"
    groups := reading.values "group"
    limit := ← rowNumber reading "limit"
    offset := ← rowNumber reading "offset" }

/-! ## Commands -/

def StatementRequest.read (command : String) (arguments : List String) :
    Except Interruption StatementRequest :=
  match command with
  | "select" => do
    let reading ← selectGrammar.read arguments
    return .select (← target reading) ((reading.values "columns").flatMap (Text.splitAtChar ','))
  | "insert" => do
    let reading ← insertGrammar.read arguments
    let table ← require reading.positionals.head?
    let data ← require (reading.value? "data")
    let mode ← require (insertMode? ((reading.value? "mode").getD "insert"))
    return .insert table data mode
  | "update" => do
    let reading ← updateGrammar.read arguments
    let changes ← require (reading.value? "set")
    return .update (← target reading) changes (reading.has "risky")
  | "delete" => do
    let reading ← deleteGrammar.read arguments
    return .delete (← target reading) (reading.has "risky")
  | _ => .error .usage

def Command.read (command : String) (arguments : List String) : Except Interruption Command :=
  match command with
  | "render" => do
    let (command, arguments) ← require (← renderGrammar.read arguments).command
    if command = "help" then .error (describing renderGrammar.commands arguments)
    else return .render (← StatementRequest.read command arguments)
  | "quote" => do
    return .quote (← require (← quoteGrammar.read arguments).positionals.head?)
  | "exec" => do
    let reading ← execGrammar.read arguments
    return .exec (← require reading.positionals.head?) (reading.value? "params")
  | "help" => .error (describing rootGrammar.commands arguments)
  | _ => do return .run (← StatementRequest.read command arguments)

def defaultDatabase : String := "sqlite:db.sqlite3"

/-- The dialect of printed statements where none is named. -/
def defaultDialect : String := "sqlite"

def Invocation.read (arguments : List String) : Except Interruption Invocation := do
  let settings ← rootGrammar.read arguments
  let (command, arguments) ← require settings.command
  return {
    database := (settings.value? "database").getD defaultDatabase
    dialect := (settings.value? "dialect").getD defaultDialect
    mode := if settings.has "native-quotes" then .native else .ansi
    verbose := settings.has "verbose"
    command := ← Command.read command arguments }

end SqlAssembly.CommandLine
