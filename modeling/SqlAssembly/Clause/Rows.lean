import SqlAssembly.FieldOptions
import SqlAssembly.Fragment.Basic

/-! # Rows of an insert

The rows of an insert become a list of columns and one tuple of slots for each row.  The
columns are those of the first row; each row fills its slots in the order of its own
fields.  A slot is a placeholder, the word NULL, SQL text or an identifier.
-/

namespace SqlAssembly

def rowColumns (dialect : Dialect) (row : Fields Value) : Except AssemblyError (List String) :=
  row.keys.mapM fun field => do
    let indicated ← IndicatedField.read field
    return dialect.quoteIdentifier indicated.name

/-- The slot of one field: its text and the parameter bound to it, if one is. -/
def slot (dialect : Dialect) (call : FieldOptions) (field : String) (value : Value) :
    Except AssemblyError Fragment := do
  let ⟨name, options⟩ ← IndicatedField.resolve field call
  if options.negated then .error (.invalidIndicator field .negatedPayload)
  else
    match value with
    | .list _ => .error (.nonConformingValue name)
    | .map _ => .error (.nonConformingValue name)
    | .scalar s =>
      if options.raw then return .raw s.plain
      else if s.isNull then return .raw "NULL"
      else if options.identity then return .raw (dialect.quoteIdentifier s.plain)
      else return ⟨dialect.placeholder, [s]⟩

def rowTuple (dialect : Dialect) (call : FieldOptions) (row : Fields Value) :
    Except AssemblyError Fragment := do
  let slots ← row.entries.mapM fun (field, value) => slot dialect call field value
  return ⟨"(" ++ ", ".intercalate (slots.map Fragment.sql) ++ ")", slots.flatMap Fragment.params⟩

/-- The columns and tuples of rows.  Without a first row that has a field there is
nothing to insert. -/
def rowsFragment (dialect : Dialect) (call : FieldOptions) (rows : List (Fields Value)) :
    Except AssemblyError Fragment :=
  match rows with
  | [] => .error (.noPayload .insert)
  | first :: _ =>
    if first.isEmpty then .error (.noPayload .insert)
    else do
      let columns ← rowColumns dialect first
      let tuples ← rows.mapM (rowTuple dialect call)
      return ⟨"(" ++ ", ".intercalate columns ++ ")\nVALUES "
          ++ ", ".intercalate (tuples.map Fragment.sql), tuples.flatMap Fragment.params⟩

end SqlAssembly
