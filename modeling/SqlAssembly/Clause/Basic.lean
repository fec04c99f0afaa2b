/-! # Clauses that receive input

Four clauses of a statement receive loosely typed input.  WHERE and HAVING hold
conditions; SET and the column list of an insert hold a payload.
-/

namespace SqlAssembly

inductive Clause where
  -- `WHERE`, and the condition of a join.
  | filter
  | having
  | update
  | insert
  deriving DecidableEq, Repr

namespace Clause

def name : Clause → String
  | .filter => "where"
  | .having => "having"
  | .update => "update"
  | .insert => "insert"

/-- Whether the clause holds conditions rather than a payload. -/
def holdsConditions : Clause → Bool
  | .filter => true
  | .having => true
  | .update => false
  | .insert => false

end Clause

end SqlAssembly
