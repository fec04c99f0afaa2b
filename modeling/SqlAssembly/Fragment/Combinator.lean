import SqlAssembly.Text.Blank

/-! # Combinators

A combinator is the text that stands between two joined fragments.
-/

namespace SqlAssembly

inductive Combinator where
  | newline
  | and
  | or
  | comma
  | space
  | separator (text : String)
  deriving DecidableEq, Repr

namespace Combinator

def text : Combinator → String
  | .newline => "\n"
  | .and => "\n\tAND "
  | .or => "\n\tOR "
  | .comma => ", "
  | .space => " "
  | .separator text => text

/-- The combinator that a text names.  The words *and* and *or* name the logical ones,
in any case and with blanks around them, and a line break names `newline`; any other
text separates as it is. -/
def ofText (s : String) : Combinator :=
  match Text.asciiLower (Text.trim s) with
  | "and" => .and
  | "or" => .or
  | _ => if s = "\n" then .newline else .separator s

/-- The combinator that an optional text names; without a text it is `newline`. -/
def ofText? : Option String → Combinator
  | none => .newline
  | some s => ofText s

end Combinator

end SqlAssembly
