import SqlAssembly.Error
import SqlAssembly.Fragment.Combinator
import SqlAssembly.Fragment.Placeholder

/-! # Fragments

A fragment is SQL text together with the parameters of its placeholders.  Everything a
statement is made of is a fragment.  Joining never writes a value into the text: texts
are joined with a separator and parameter lists in the same order.

* `Fragment.append`, `Fragment.join` — joining fragments.
* `FragmentSource` — what a caller may give for a fragment: text, a fragment, or a
  sequence of texts, parameter lists and fragments.
* `Fragment.conform`, `Fragment.combine` — fragments from sources.
-/

namespace SqlAssembly

/-- SQL text and the parameters of its placeholders, in order. -/
structure Fragment where
  sql : String
  params : List Scalar
  deriving DecidableEq, Repr

namespace Fragment

def empty : Fragment := ⟨"", []⟩

def raw (sql : String) : Fragment := ⟨sql, []⟩

/-- A text with values as parameters, each of which has to be a scalar. -/
def bound (sql : String) (values : List Value) : Except AssemblyError Fragment := do
  return ⟨sql, ← Value.toScalars values⟩

def isBlank (f : Fragment) : Bool :=
  Text.isBlank f.sql

def negate (f : Fragment) : Fragment :=
  { f with sql := "NOT ( " ++ f.sql ++ " )" }

def parenthesize (f : Fragment) : Fragment :=
  { f with sql := "( " ++ f.sql ++ " )" }

def prefixed (f : Fragment) (lead : String) : Fragment :=
  { f with sql := lead ++ f.sql }

def placeholders (f : Fragment) : Nat :=
  placeholderCount f.sql

def inline (f : Fragment) : String :=
  inlined f.sql f.params

/-- One fragment after another.  The separator stands only between two texts that are
not empty; the parameters are joined in any case. -/
def append (f g : Fragment) (separator : String) : Fragment :=
  if g.sql.isEmpty then { f with params := f.params ++ g.params }
  else if f.sql.isEmpty then ⟨g.sql, f.params ++ g.params⟩
  else ⟨f.sql ++ separator ++ g.sql, f.params ++ g.params⟩

def join (combinator : Combinator) (fragments : List Fragment) : Fragment :=
  fragments.foldl (fun joined f => joined.append f combinator.text) empty

end Fragment

/-- An element of a sequence that makes up a fragment. -/
inductive Part where
  | sql (text : String)
  | params (values : List Value)
  | fragment (f : Fragment)
  deriving DecidableEq

namespace Part

def texts : Part → List String
  | .sql text => [text]
  | .params _ => []
  | .fragment f => [f.sql]

def parameters : Part → Except AssemblyError (List Scalar)
  | .sql _ => .ok []
  | .params values => Value.toScalars values
  | .fragment f => .ok f.params

end Part

/-- What a caller may give for a fragment. -/
inductive FragmentSource where
  | text (sql : String)
  | parts (parts : List Part)
  | fragment (f : Fragment)
  deriving DecidableEq

namespace Fragment

/-- The fragment that a source stands for.  The texts of a sequence are joined with the
combinator, empty ones included, and its parameters follow each other in order. -/
def conform (source : FragmentSource) (combinator : Combinator) : Except AssemblyError Fragment :=
  match source with
  | .text sql => .ok (raw sql)
  | .fragment f => .ok f
  | .parts parts => do
    let params ← parts.mapM Part.parameters
    return ⟨combinator.text.intercalate (parts.flatMap Part.texts), params.flatten⟩

def combine (sources : List FragmentSource) (combinator : Combinator) :
    Except AssemblyError Fragment := do
  let fragments ← sources.mapM (conform · .newline)
  return join combinator fragments

end Fragment

end SqlAssembly
