import SqlAssembly.Text.Quoted

/-! # The log

What happens beside the results is told in a log, which is printed where the results are printed.
An entry has a level, a message and named values.  Which entries are shown depends on their level
alone.  How a line of the log looks is a matter of the library that writes it, and not of the
program: `LogEntry.line` is its plain layout, without colours, in which the message is escaped and
the values are not.

* `LogEntry`, `LogEntry.isShown` — entries, and the ones that are shown.
* `LogEntry.line` — an entry in the plain layout.
-/

namespace SqlAssembly

inductive LogLevel where
  | trace
  | debug
  | info
  | warn
  | error
  deriving DecidableEq, Repr

def LogLevel.label : LogLevel → String
  | .trace => "TRACE"
  | .debug => "DEBUG"
  | .info => " INFO"
  | .warn => " WARN"
  | .error => "ERROR"

structure LogEntry where
  level : LogLevel
  message : String
  fields : List (String × String) := []
  deriving DecidableEq, Repr

namespace LogEntry

/-- Entries that only trace are never shown, and those for debugging where more is asked for. -/
def isShown (verbose : Bool) (entry : LogEntry) : Bool :=
  match entry.level with
  | .trace => false
  | .debug => verbose
  | _ => true

def line (entry : LogEntry) : String :=
  " ".intercalate (entry.level.label :: Text.logged entry.message ::
    entry.fields.map fun (name, value) => name ++ "=" ++ value) ++ "\n"

end LogEntry

end SqlAssembly
