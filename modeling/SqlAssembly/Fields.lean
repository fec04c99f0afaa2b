/-! # Field mappings

A field mapping takes names to values and remembers the order in which the names were
first set.  Setting a name again replaces its value and leaves its place alone.
-/

namespace SqlAssembly

/-- A mapping from field names to values, in the order the names were first set. -/
structure Fields (α : Type) where
  entries : List (String × α)
  deriving DecidableEq, Repr

namespace Fields

variable {α : Type}

def empty : Fields α := ⟨[]⟩

/-- Replaces the value under a name, or adds the name at the end. -/
def setEntry (field : String) (value : α) : List (String × α) → List (String × α)
  | [] => [(field, value)]
  | (key, old) :: rest =>
    if key = field then (key, value) :: rest else (key, old) :: setEntry field value rest

def set (fields : Fields α) (field : String) (value : α) : Fields α :=
  ⟨setEntry field value fields.entries⟩

def erase (fields : Fields α) (field : String) : Fields α :=
  ⟨fields.entries.filter fun entry => entry.1 != field⟩

def get? (fields : Fields α) (field : String) : Option α :=
  (fields.entries.find? fun entry => entry.1 == field).map Prod.snd

def keys (fields : Fields α) : List String :=
  fields.entries.map Prod.fst

def size (fields : Fields α) : Nat :=
  fields.entries.length

def isEmpty (fields : Fields α) : Bool :=
  fields.entries.isEmpty

/-- The fields in the order of their names, which is that of code points. -/
def sorted (fields : Fields α) : Fields α :=
  ⟨fields.entries.mergeSort fun a b => !decide (b.1 < a.1)⟩

def ofList (pairs : List (String × α)) : Fields α :=
  pairs.foldl (fun fields pair => fields.set pair.1 pair.2) empty

end Fields

end SqlAssembly
