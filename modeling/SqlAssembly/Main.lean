import SqlAssembly.CommandLine.Outcome
import SqlAssembly.Memory.Database

/-! # The program

Builds statements from arguments and prints them, or runs them in a database in memory.  The exit
code is 1 for a failure and 2 for wrong arguments.
-/

namespace SqlAssembly.CommandLine

def usageLine : String := "Usage: fragsql [OPTIONS] <COMMAND>"

def Invocation.perform (i : Invocation) : IO UInt32 := do
  let printing := i.print Memory.engine ()
  IO.print (printedText LogEntry.line printing.items)
  match printing.result with
  | .ok () => return 0
  | .error failure =>
    IO.eprint failure.text
    return 1

def Interruption.perform : Interruption → IO UInt32
  | .help => do
    IO.println usageLine
    return 0
  | .version => do
    IO.print versionText
    return 0
  | .usage => do
    IO.eprintln usageLine
    return 2

end SqlAssembly.CommandLine

/-- Carries out the arguments over a database in memory. -/
def main (arguments : List String) : IO UInt32 :=
  match SqlAssembly.CommandLine.Invocation.read arguments with
  | .ok invocation => invocation.perform
  | .error interruption => interruption.perform
