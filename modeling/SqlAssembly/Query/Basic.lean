import SqlAssembly.Draft.Basic
import SqlAssembly.FieldOptions

/-! # Queries as data

A query is a dialect and a list of steps.  A step names one change of the statement and
carries the caller's input as it was given; input may hold further queries, each with
its own dialect.  Nothing is interpreted here, so a query can be inspected, compared and
extended before it is assembled.

* `Input` — what a clause receives.
* `Step` — one change of the statement.
* `Query` — a dialect and steps.
-/

namespace SqlAssembly

mutual

inductive Input where
  -- SQL text, as it is.
  | literal (sql : String)
  -- Fields with values: conditions all of which have to hold, or assignments.
  | mapping (fields : Fields Value)
  -- The rows of an insert.
  | rows (rows : List (Fields Value))
  -- One field compared with or set to a value; `=` where no comparator is given.
  | condition (field : String) (comparator : Option String) (value : Value)
  -- The row whose `id` is a number.
  | id (n : Int)
  -- The statement of a query.
  | subquery (query : Query)
  | fragment (f : Fragment)
  -- An input with options for each of its fields.
  | overridden (input : Input) (options : FieldOptions)

inductive JoinTarget where
  | table (token : String)
  | subquery (query : Query)

inductive Step where
  -- A condition on rows, under options.
  | filter (input : Input) (options : FieldOptions)
  -- An argument that could not be read; its error refuses the statement.
  | refuse (error : AssemblyError)
  -- Closes the group of conditions.
  | regroup (connective : Connective)
  -- A condition on groups of rows.
  | having (input : Input)
  | select (selection : Selection)
  -- Makes a table the only source.
  | setTable (token : String)
  -- Adds a table to the source.
  | addTable (token : String)
  -- Makes the statement of a query the source.
  | setSubquery (query : Query)
  -- Names the select, so that it can be used as a table.
  | named (name : String)
  -- A join, with the condition it has if any; the condition compares identifiers.
  | join (target : JoinTarget) (kind : JoinKind) (on : Option Input)
  -- A join that is written out.
  | joinRaw (source : FragmentSource)
  | order (text : String)
  | group (token : String)
  | limit (count : Nat)
  | offset (count : Nat)
  | lock (mode : LockMode)
  -- Allows a change of all rows.
  | risky
  | insert (rows : Input)
  -- An insert that replaces conflicting rows.
  | replace (rows : Input)
  -- An insert that skips conflicting rows.
  | insertIgnore (rows : Input)
  -- An insert that changes conflicting rows.
  | upsert (rows changes : Input)
  | update (changes : Input)
  | delete

/-- A dialect and the changes that make up a statement. -/
inductive Query where
  | mk (dialect : Dialect) (steps : List Step)

end

namespace Query

/-- The dialect of a query; that of its subqueries may differ. -/
def dialect : Query → Dialect
  | .mk dialect _ => dialect

def steps : Query → List Step
  | .mk _ steps => steps

def start (dialect : Dialect) : Query := .mk dialect []

def extend (query : Query) (more : List Step) : Query :=
  .mk query.dialect (query.steps ++ more)

end Query

namespace Step

def filterEq (field : String) (value : Value) : Step :=
  .filter (.condition field none value) {}

def filterBy (field comparator : String) (value : Value) : Step :=
  .filter (.condition field (some comparator) value) {}

/-- A condition whose values are SQL text. -/
def filterRaw (input : Input) : Step := .filter input { raw := true }

def filterNot (input : Input) : Step := .filter input { negated := true }

/-- A condition whose values are identifiers. -/
def filterIdentity (input : Input) : Step := .filter input { identity := true }

def filterSubquery (query : Query) : Step := .filter (.subquery query) {}

/-- An insert that changes a conflicting row to the inserted one. -/
def insertUpdate (rows : Input) : Step := .upsert rows rows

end Step

end SqlAssembly
