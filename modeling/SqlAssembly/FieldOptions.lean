import SqlAssembly.Error
import SqlAssembly.Text.Blank

/-! # Field options and indicators

The options of a field say how its value is turned into SQL.  They come from the call,
from overrides around an input, and from indicators in front of the field's name:

| Indicator | Meaning |
|---|---|
| `"` | the value is SQL text and is written as it is |
| `!` | the comparison is negated |
| `:` | the value is an identifier and is quoted instead of bound |
| `?cmp?` | `cmp` compares instead of `=` |

The three flags may stand in any order, each at most once; a comparator comes last.
-/

namespace SqlAssembly

/-- How the value of a field is turned into SQL. -/
structure FieldOptions where
  -- The value is SQL text.
  raw : Bool := false
  negated : Bool := false
  -- The value is an identifier.
  identity : Bool := false
  -- The comparator in place of the one given by position.
  comparator : Option String := none
  deriving DecidableEq, Repr

namespace FieldOptions

def none : FieldOptions := {}

/-- The flags of both; the comparator of the second wins when it has one. -/
def merge (outer inner : FieldOptions) : FieldOptions where
  raw := outer.raw || inner.raw
  negated := outer.negated || inner.negated
  identity := outer.identity || inner.identity
  comparator := inner.comparator <|> outer.comparator

/-- Refuses options that declare the value both SQL text and identifier. -/
def check (options : FieldOptions) (field : String) : Except AssemblyError Unit :=
  if options.raw && options.identity then .error (.invalidIndicator field .rawIdentity)
  else .ok ()

def setEntry (options : FieldOptions) : String × Value → Except AssemblyError FieldOptions
  | ("raw", .scalar (.bool b)) => .ok { options with raw := b }
  | ("not", .scalar (.bool b)) => .ok { options with negated := b }
  | ("identity", .scalar (.bool b)) => .ok { options with identity := b }
  | ("compare", .scalar (.text c)) => .ok { options with comparator := some c }
  | (key, _) => .error (.unrecognizedArgument .options key)

/-- The options that a mapping such as `raw: true, compare: ">"` describes. -/
def ofValue : Value → Except AssemblyError FieldOptions
  | .map fields => fields.entries.foldlM setEntry FieldOptions.none
  | other => .error (.unrecognizedArgument .options other.kind)

end FieldOptions

/-- A field name without its indicators, and the options they carry. -/
structure IndicatedField where
  name : String
  options : FieldOptions
  deriving DecidableEq, Repr

namespace IndicatedField

def takeFlags (options : FieldOptions) :
    List Char → Except IndicatorFault (FieldOptions × List Char)
  | '"' :: rest =>
    if options.raw then .error .repeatedFlag else takeFlags { options with raw := true } rest
  | '!' :: rest =>
    if options.negated then .error .repeatedFlag
    else takeFlags { options with negated := true } rest
  | ':' :: rest =>
    if options.identity then .error .repeatedFlag
    else takeFlags { options with identity := true } rest
  | rest => .ok (options, rest)

/-- Takes the comparator in front of a name, without the blanks around it. -/
def takeComparator (options : FieldOptions) :
    List Char → Except IndicatorFault (FieldOptions × List Char)
  | '?' :: rest =>
    match rest.span (· != '?') with
    | (_, []) => .error .openComparator
    | (comparator, _ :: name) =>
      if comparator.all Text.isBlankChar then .error .blankComparator
      else
        let trimmed := String.ofList (Text.trimChars comparator)
        .ok ({ options with comparator := some trimmed }, name)
  | rest => .ok (options, rest)

def readChars (cs : List Char) : Except IndicatorFault IndicatedField := do
  let (flags, rest) ← takeFlags FieldOptions.none cs
  let (options, name) ← takeComparator flags rest
  if name.isEmpty then .error .missingName
  else if options.raw && options.identity then .error .rawIdentity
  else return ⟨String.ofList name, options⟩

def read (field : String) : Except AssemblyError IndicatedField :=
  match readChars field.toList with
  | .ok indicated => .ok indicated
  | .error fault => .error (.invalidIndicator field fault)

/-- The name of a field and its options under those of the call. -/
def resolve (field : String) (call : FieldOptions) : Except AssemblyError IndicatedField := do
  let indicated ← read field
  let options := call.merge indicated.options
  options.check field
  return { indicated with options := options }

end IndicatedField

end SqlAssembly
