import SqlAssembly.FieldOptions
import SqlAssembly.Fragment.Basic

/-! # Fields as SQL

A field with a value becomes a test in a clause that holds conditions and an assignment
in SET.  The field's options decide whether the value is bound to a placeholder, written
as SQL text or quoted as an identifier.

* `Comparison` — a column, a comparator and the options they are written under.
* `Comparison.test` — the condition on a value: membership for a list, a null test for
  null, a comparison for any other scalar.
* `Comparison.assignment` — the assignment of a value.
* `fieldFragment` — the field as the caller wrote it, resolved and turned into SQL.
-/

namespace SqlAssembly

/-- The comparators whose tests on lists and null are the negative ones. -/
def isNegativeComparator (comparator : String) : Bool :=
  let operator := Text.trim comparator
  operator = "!=" || operator = "<>"

structure Comparison where
  dialect : Dialect
  name : String
  comparator : String
  options : FieldOptions
  deriving DecidableEq, Repr

namespace Comparison

def column (c : Comparison) : String :=
  c.dialect.quoteIdentifier c.name

/-- A scalar written into the text, under options that do not bind it. -/
def written (c : Comparison) (s : Scalar) : String :=
  if c.options.raw then s.plain else c.dialect.quoteIdentifier s.plain

def binds (c : Comparison) : Bool :=
  !c.options.raw && !c.options.identity

def scalar (c : Comparison) (s : Scalar) : Fragment :=
  let left := c.column ++ " " ++ c.comparator ++ " "
  if c.binds then ⟨left ++ c.dialect.placeholder, [s]⟩ else .raw (left ++ c.written s)

def membership (c : Comparison) (items : List Scalar) : Fragment :=
  let keyword := if isNegativeComparator c.comparator then " NOT IN (" else " IN ("
  let left := c.column ++ keyword
  if c.binds then
    ⟨left ++ ", ".intercalate (items.map fun _ => c.dialect.placeholder) ++ ")", items⟩
  else .raw (left ++ ", ".intercalate (items.map c.written) ++ ")")

def nullTest (c : Comparison) : Fragment :=
  .raw (c.column ++ if isNegativeComparator c.comparator then " IS NOT NULL" else " IS NULL")

def test (c : Comparison) : Value → Except AssemblyError Fragment
  | .list [] => .error (.emptyInList c.name)
  | .list items => do return c.membership (← Value.toScalars items)
  | .map _ => .error (.keyedInList c.name)
  | .scalar .null => .ok (if c.binds then c.nullTest else c.scalar .null)
  | .scalar s => .ok (c.scalar s)

def assignment (c : Comparison) : Value → Except AssemblyError Fragment
  | .list _ => .error (.nonConformingValue c.name)
  | .map _ => .error (.nonConformingValue c.name)
  | .scalar .null =>
    .ok (if c.options.raw then c.scalar .null else .raw (c.column ++ " = NULL"))
  | .scalar s => .ok (c.scalar s)

end Comparison

/-- A field with a value in a clause.  The comparator of the options comes before the one
given by position, and `=` stands where there is neither. -/
def fieldFragment (dialect : Dialect) (clause : Clause) (call : FieldOptions) (field : String)
    (positional : Option String) (value : Value) : Except AssemblyError Fragment := do
  let ⟨name, options⟩ ← IndicatedField.resolve field call
  let comparator := (options.comparator <|> positional).getD "="
  let comparison : Comparison := ⟨dialect, name, comparator, options⟩
  if clause.holdsConditions then
    let test ← comparison.test value
    return if options.negated then test.negate else test
  else if options.negated then .error (.invalidIndicator field .negatedPayload)
  else comparison.assignment value

/-- The fields of a mapping in a clause: conditions all of which have to hold, or a list
of assignments. -/
def mappingFragment (dialect : Dialect) (clause : Clause) (call : FieldOptions)
    (fields : Fields Value) : Except AssemblyError Fragment := do
  let fragments ← fields.entries.mapM fun (field, value) =>
    fieldFragment dialect clause call field none value
  return Fragment.join (if clause.holdsConditions then .and else .comma) fragments

end SqlAssembly
