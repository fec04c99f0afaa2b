import SqlAssembly.Query.Basic

/-! # Reading input from values

A single value can stand for an input: a text is SQL, an integer is an id, a mapping
holds fields and a list of mappings holds rows.  Any other list is read as positional
arguments `(field, [comparator,] value[, options])`, and a list of one element as that
element.
-/

namespace SqlAssembly

def fieldText : Value → Except AssemblyError String
  | .scalar (.text s) => .ok s
  | other => .error (.unrecognizedArgument .field other.kind)

namespace Input

def ofPair (field value : Value) : Except AssemblyError Input := do
  return .condition (← fieldText field) none value

def ofTriple (field comparator value : Value) : Except AssemblyError Input := do
  let comparator ← fieldText comparator
  let field ← fieldText field
  return .condition field (some comparator) value

def ofQuadruple (field comparator value options : Value) : Except AssemblyError Input := do
  let options ← FieldOptions.ofValue options
  return .overridden (← ofTriple field comparator value) options

/-- The rows of a list of mappings that is not empty. -/
def rows? (items : List Value) : Option (List (Fields Value)) :=
  if items.isEmpty then none else items.mapM Value.map?

def ofValue : Value → Except AssemblyError Input
  | .scalar (.text sql) => .ok (.literal sql)
  | .scalar (.int n) => .ok (.id n)
  | .map fields => .ok (.mapping fields)
  | .list items =>
    match rows? items with
    | some mappings => .ok (.rows mappings)
    | none => ofItems items
  | .scalar s => .error (.unrecognizedArgument .input s.kind)
where
  ofItems : List Value → Except AssemblyError Input
    | [value] => ofValue value
    | [field, value] => ofPair field value
    | [field, comparator, value] => ofTriple field comparator value
    | [field, comparator, value, options] => ofQuadruple field comparator value options
    | other => .error (.badArgumentCount other.length)

def ofArguments (arguments : List Value) : Except AssemblyError Input :=
  ofValue.ofItems arguments

end Input

namespace Step

/-- The condition that a value stands for.  A value that cannot be read as input refuses
the whole statement. -/
def filterValue (value : Value) : Step :=
  match Input.ofValue value with
  | .ok input => .filter input {}
  | .error e => .refuse e

end Step

end SqlAssembly
