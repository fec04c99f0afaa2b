import SqlAssembly.Text.Basic

/-! # Reading command line arguments

The arguments of a command are options, positional arguments and the name of a command
inside it, which takes all arguments behind it.  A reader takes them one by one and stops
at the first that is wrong.

* A long option is written `--name value` or `--name=value`, a short one `-n value`,
  `-nvalue` or `-n=value`; short flags may share one argument.
* A value of its own does not start with a hyphen, unless its option says otherwise; the
  single hyphen is a value like any other.
* Behind `--` there are only positional arguments.
* An option is given once, unless it collects values.
* A value that does not have the form its option asks for is wrong as soon as it is read.
-/

namespace SqlAssembly.CommandLine

inductive Interruption where
  -- The arguments are wrong.
  | usage
  -- A description is asked for.
  | help
  -- The version is asked for.
  | version
  deriving DecidableEq, Repr

/-- The number that a text writes: digits after an optional plus sign, below `2 ^ 64`. -/
def number? (text : String) : Option Nat :=
  let digits :=
    match text.toList with
    | '+' :: digits => digits
    | digits => digits
  if digits.isEmpty || !digits.all Char.isDigit then none
  else
    let n := Text.natOfDigits digits
    if n < UInt64.size then some n else none

inductive ValueForm where
  | text
  | number
  -- One of some words.
  | oneOf (words : List String)
  deriving DecidableEq, Repr

def ValueForm.accepts : ValueForm → String → Bool
  | .text, _ => true
  | .number, value => (number? value).isSome
  | .oneOf words, value => words.contains value

inductive OptionKind where
  -- It has no value.
  | flag
  -- It has a value and is given once.
  | single (form : ValueForm)
  -- It has a value each time it is given.
  | collecting
  -- As `collecting`, with values that may start with a hyphen.
  | collectingAny
  -- It ends the reading.
  | interrupting (cause : Interruption)
  deriving DecidableEq, Repr

namespace OptionKind

def takesValue : OptionKind → Bool
  | .flag => false
  | .interrupting _ => false
  | _ => true

def accepts : OptionKind → String → Bool
  | .single form, value => form.accepts value
  | _, _ => true

def repeats : OptionKind → Bool
  | .collecting => true
  | .collectingAny => true
  | _ => false

end OptionKind

structure OptionSpec where
  name : String
  short : Option Char
  kind : OptionKind
  deriving DecidableEq, Repr

structure Grammar where
  options : List OptionSpec
  -- The number of positional arguments, all of which must be given.
  positionals : Nat
  -- The commands inside the command; if there are any, one must be given.
  commands : List String
  deriving DecidableEq, Repr

structure Reading where
  -- The options with their values, in order; a flag has the empty value.
  options : List (String × String)
  positionals : List String
  -- The command inside the command, with the arguments behind it.
  command : Option (String × List String)
  deriving DecidableEq, Repr

namespace Reading

def empty : Reading := ⟨[], [], none⟩

def values (reading : Reading) (name : String) : List String :=
  (reading.options.filter (·.1 == name)).map Prod.snd

def value? (reading : Reading) (name : String) : Option String :=
  reading.options.lookup name

def has (reading : Reading) (name : String) : Bool :=
  reading.options.any (·.1 == name)

/-- Adds an option with its value.  An option that is given once must not be present, and
the value must be one that the option accepts. -/
def addOption (reading : Reading) (spec : OptionSpec) (value : String) :
    Except Interruption Reading :=
  if (reading.has spec.name && !spec.kind.repeats) || !spec.kind.accepts value then
    .error .usage
  else .ok { reading with options := reading.options ++ [(spec.name, value)] }

def addFlag (reading : Reading) (spec : OptionSpec) : Except Interruption Reading :=
  match spec.kind with
  | .interrupting cause => .error cause
  | _ => reading.addOption spec ""

def addPositional (reading : Reading) (g : Grammar) (argument : String) :
    Except Interruption Reading :=
  if reading.positionals.length < g.positionals then
    .ok { reading with positionals := reading.positionals ++ [argument] }
  else .error .usage

end Reading

inductive Expecting where
  -- Anything.
  | anything
  -- The value of an option.
  | valueOf (spec : OptionSpec)
  -- A positional argument.
  | positional
  deriving DecidableEq, Repr

/-- Takes a long option, given without its two hyphens. -/
def takeLong (g : Grammar) (reading : Reading) (argument : List Char) :
    Except Interruption (Reading × Expecting) :=
  let (name, attached) := argument.span (· != '=')
  match g.options.find? (·.name == String.ofList name), attached with
  | none, _ => .error .usage
  | some spec, [] =>
    if spec.kind.takesValue then .ok (reading, .valueOf spec)
    else do return (← reading.addFlag spec, .anything)
  | some spec, _ :: value =>
    if spec.kind.takesValue then do
      return (← reading.addOption spec (String.ofList value), .anything)
    else .error .usage

/-- Takes the short options of one argument, given without its hyphen. -/
def takeShort (g : Grammar) (reading : Reading) :
    List Char → Except Interruption (Reading × Expecting)
  | [] => .ok (reading, .anything)
  | c :: rest =>
    match g.options.find? (·.short == some c) with
    | none => .error .usage
    | some spec =>
      if spec.kind.takesValue then
        match rest with
        | [] => .ok (reading, .valueOf spec)
        | '=' :: value => do
          return (← reading.addOption spec (String.ofList value), .anything)
        | value => do
          return (← reading.addOption spec (String.ofList value), .anything)
      else do takeShort g (← reading.addFlag spec) rest

/-- Whether an argument is written like an option, or is the mark that ends options. -/
def looksLikeOption (argument : String) : Bool :=
  match argument.toList with
  | '-' :: _ :: _ => true
  | _ => false

/-- Takes one argument that is no command's name. -/
def takeArgument (g : Grammar) (reading : Reading) (argument : String) :
    Expecting → Except Interruption (Reading × Expecting)
  | .valueOf spec =>
    if looksLikeOption argument && spec.kind != .collectingAny then .error .usage
    else do return (← reading.addOption spec argument, .anything)
  | .positional => do return (← reading.addPositional g argument, .positional)
  | .anything =>
    match argument.toList with
    | ['-', '-'] => .ok (reading, .positional)
    | '-' :: '-' :: long => takeLong g reading long
    | '-' :: c :: short => takeShort g reading (c :: short)
    | _ => do return (← reading.addPositional g argument, .anything)

def complete (g : Grammar) (reading : Reading) : Expecting → Except Interruption Reading
  | .valueOf _ => .error .usage
  | _ =>
    if reading.positionals.length = g.positionals && g.commands.isEmpty then .ok reading
    else .error .usage

def readFrom (g : Grammar) (reading : Reading) :
    Expecting → List String → Except Interruption Reading
  | expecting, [] => complete g reading expecting
  | expecting, argument :: rest =>
    if expecting = .anything ∧ g.commands.contains argument then
      .ok { reading with command := some (argument, rest) }
    else do
      let (reading, expecting) ← takeArgument g reading argument expecting
      readFrom g reading expecting rest

def Grammar.read (g : Grammar) (arguments : List String) : Except Interruption Reading :=
  readFrom g .empty .anything arguments

end SqlAssembly.CommandLine
