import SqlAssembly.Connection.Error
import SqlAssembly.Log

/-! # Printing

A command prints as it goes: texts, and entries of the log between them.  What it has printed stays
printed when it fails.

* `Failure` — why a command fails, and how that is worded.
* `Printing` — a part of a command: what it prints, and its result or its failure.
* `shown` — the entries of the log that are printed.
-/

namespace SqlAssembly.CommandLine

/-- A failure, and the causes behind it from the nearest on. -/
structure Failure where
  message : String
  causes : List String
  deriving DecidableEq, Repr

namespace Failure

def ofSession (error : SessionError) : Failure := ⟨error.message, error.causes⟩

def within (context : String) (failure : Failure) : Failure :=
  ⟨context, failure.message :: failure.causes⟩

/-- A cause behind a mark, its further lines indented as far as the first. -/
def causeLines (mark indent cause : String) : String :=
  mark ++ ("\n" ++ indent).intercalate (Text.splitAtChar '\n' cause)

/-- The causes, a line each; several of them are numbered. -/
def causeList : List String → String
  | [] => ""
  | [cause] => "\n\nCaused by:\n" ++ causeLines "    " "    " cause
  | causes =>
    "\n\nCaused by:\n" ++ "\n".intercalate (causes.zipIdx.map fun (cause, i) =>
      causeLines ("    " ++ Text.ofNat i ++ ": ") "       " cause)

def text (failure : Failure) : String :=
  "Error: " ++ failure.message ++ causeList failure.causes ++ "\n"

end Failure

inductive Printed where
  | text (text : String)
  | entry (entry : LogEntry)
  deriving DecidableEq, Repr

/-- What is printed, one after another, with the entries of the log in a layout of their lines. -/
def printedText (layout : LogEntry → String) (items : List Printed) : String :=
  String.join (items.map fun
    | .text text => text
    | .entry entry => layout entry)

theorem printedText_append (layout : LogEntry → String) (xs ys : List Printed) :
    printedText layout (xs ++ ys) = printedText layout xs ++ printedText layout ys := by
  rw [printedText, List.map_append, String.join_append]
  rfl

structure Printing (α : Type) where
  items : List Printed
  result : Except Failure α

namespace Printing

variable {α β : Type}

def pure (a : α) : Printing α := ⟨[], .ok a⟩

def bind (p : Printing α) (f : α → Printing β) : Printing β :=
  match p.result with
  | .ok a => ⟨p.items ++ (f a).items, (f a).result⟩
  | .error failure => ⟨p.items, .error failure⟩

instance : Monad Printing where
  pure := pure
  bind := bind

def silently (result : Except Failure α) : Printing α := ⟨[], result⟩

def write (items : List Printed) : Printing Unit := ⟨items, .ok ()⟩

theorem bind_of_ok {p : Printing α} {a : α} (ok : p.result = .ok a) (f : α → Printing β) :
    p >>= f = ⟨p.items ++ (f a).items, (f a).result⟩ := by
  change p.bind f = _
  rw [bind, ok]

@[simp] theorem silently_ok_bind (a : α) (f : α → Printing β) : silently (.ok a) >>= f = f a := rfl

end Printing

def shown (verbose : Bool) (entries : List LogEntry) : List Printed :=
  (entries.filter (·.isShown verbose)).map .entry

theorem shown_append (verbose : Bool) (xs ys : List LogEntry) :
    shown verbose (xs ++ ys) = shown verbose xs ++ shown verbose ys := by
  rw [shown, List.filter_append, List.map_append]
  rfl

end SqlAssembly.CommandLine
