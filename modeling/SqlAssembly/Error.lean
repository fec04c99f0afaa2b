import SqlAssembly.Clause.Basic
import SqlAssembly.Dialect
import SqlAssembly.Value.Basic

/-! # Errors of statement assembly

What can go wrong while input is turned into fragments and fragments into a statement.
Each constructor is a cause; `AssemblyError.message` holds the wording of all of them.
-/

namespace SqlAssembly

inductive IndicatorFault where
  -- The same flag is given twice.
  | repeatedFlag
  -- The comparator has no closing question mark.
  | openComparator
  | blankComparator
  -- Nothing is left after the indicators.
  | missingName
  | rawIdentity
  -- A negation in a clause that holds a payload.
  | negatedPayload
  deriving DecidableEq, Repr

namespace IndicatorFault

def reason : IndicatorFault → String
  | .repeatedFlag => "repeated indicator"
  | .openComparator => "comparator is missing its closing `?`"
  | .blankComparator => "comparator is empty"
  | .missingName => "no field name after indicators"
  | .rawIdentity => "raw and identity cannot both apply"
  | .negatedPayload => "negation only applies to conditions"

end IndicatorFault

inductive ArgumentRole where
  | input
  | field
  | options
  | clause (c : Clause)
  deriving DecidableEq, Repr

namespace ArgumentRole

def name : ArgumentRole → String
  | .input => "input"
  | .field => "field"
  | .options => "options"
  | .clause c => c.name

end ArgumentRole

inductive Payload where
  | insert
  | update
  deriving DecidableEq, Repr

namespace Payload

def name : Payload → String
  | .insert => "insert"
  | .update => "update"

end Payload

/-- The causes for which input or a statement is refused. -/
inductive AssemblyError where
  -- A list or a mapping where a parameter has to stand.
  | nonScalarParameter (value : Value)
  -- A list or a mapping as the value of a payload's field.
  | nonConformingValue (field : String)
  -- A mapping where a list of alternatives has to stand.
  | keyedInList (field : String)
  | emptyInList (field : String)
  | invalidIndicator (field : String) (fault : IndicatorFault)
  -- Positional arguments that are fewer than one or more than four.
  | badArgumentCount (count : Nat)
  | unrecognizedArgument (role : ArgumentRole) (found : String)
  | noTable
  -- Neither a table nor a condition.
  | emptyStatement
  | noPayload (payload : Payload)
  -- An update without a condition that was not declared risky.
  | unguardedUpdate
  -- A delete without a condition that was not declared risky.
  | unguardedDelete
  | unsupportedLock (dialect : Dialect)
  deriving DecidableEq

namespace AssemblyError

def message : AssemblyError → String
  | .nonScalarParameter value => "non scalar SQL statement variable: " ++ value.shown
  | .nonConformingValue field => "field \"" ++ field ++ "\" has non conforming value"
  | .keyedInList field =>
    "IN statement value for \"" ++ field ++ "\" must be a list, not a dictionary"
  | .emptyInList field => "IN statement value for \"" ++ field ++ "\" is an empty list"
  | .invalidIndicator field fault =>
    "invalid indicator on field \"" ++ field ++ "\": " ++ fault.reason
  | .badArgumentCount count => "bad argument count: " ++ Text.ofNat count
  | .unrecognizedArgument role found => "unrecognized " ++ role.name ++ " argument: " ++ found
  | .noTable => "no table selected"
  | .emptyStatement => "nothing to build: no table and no conditions"
  | .noPayload payload => "no \"" ++ payload.name ++ "\" payload provided"
  | .unguardedUpdate => "no \"where\" on update; call `risky()` to run it anyway"
  | .unguardedDelete => "no \"where\" on delete; call `risky()` to run it anyway"
  | .unsupportedLock dialect =>
    "dialect \"" ++ dialect.name ++ "\" does not support locking reads"

end AssemblyError

/-- The scalar that a value is, for a place where a parameter has to stand. -/
def Value.toScalar : Value → Except AssemblyError Scalar
  | .scalar s => .ok s
  | other => .error (.nonScalarParameter other)

/-- The scalars that values are; the first value that is none is the error. -/
def Value.toScalars (values : List Value) : Except AssemblyError (List Scalar) :=
  values.mapM Value.toScalar

end SqlAssembly
