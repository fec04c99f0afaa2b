import SqlAssembly.Fields
import SqlAssembly.Scalar

/-! # Values given by callers

A caller hands over a scalar, a list of values, or a mapping from field names to values.
Only scalars can become parameters; lists and mappings have a meaning of their own in the
clause that receives them.

* `Value.shown` — the form used inside messages.
* `Value.ofJson` — the value that a JSON value stands for.
-/

namespace SqlAssembly

/-- A scalar, a list or a field mapping. -/
inductive Value where
  | scalar (s : Scalar)
  | list (items : List Value)
  | map (fields : Fields Value)

namespace Value

/-! ## Equality -/

mutual

def decEq : (a b : Value) → Decidable (a = b)
  | .scalar s, .scalar t =>
    if same : s = t then isTrue (same ▸ rfl) else isFalse fun e => by cases e; exact same rfl
  | .list xs, .list ys =>
    match decEqItems xs ys with
    | isTrue same => isTrue (same ▸ rfl)
    | isFalse differ => isFalse fun e => by cases e; exact differ rfl
  | .map ⟨xs⟩, .map ⟨ys⟩ =>
    match decEqEntries xs ys with
    | isTrue same => isTrue (same ▸ rfl)
    | isFalse differ => isFalse fun e => by cases e; exact differ rfl
  | .scalar _, .list _ | .scalar _, .map _ | .list _, .scalar _
  | .list _, .map _ | .map _, .scalar _ | .map _, .list _ => isFalse fun e => by cases e

def decEqItems : (xs ys : List Value) → Decidable (xs = ys)
  | [], [] => isTrue rfl
  | x :: xs, y :: ys =>
    match x.decEq y, decEqItems xs ys with
    | isTrue head, isTrue tail => isTrue (by rw [head, tail])
    | isFalse differ, _ => isFalse fun e => by cases e; exact differ rfl
    | _, isFalse differ => isFalse fun e => by cases e; exact differ rfl
  | [], _ :: _ => isFalse fun e => by cases e
  | _ :: _, [] => isFalse fun e => by cases e

def decEqEntries : (xs ys : List (String × Value)) → Decidable (xs = ys)
  | [], [] => isTrue rfl
  | (k, x) :: xs, (l, y) :: ys =>
    if key : k = l then
      match x.decEq y, decEqEntries xs ys with
      | isTrue head, isTrue tail => isTrue (by rw [key, head, tail])
      | isFalse differ, _ => isFalse fun e => by cases e; exact differ rfl
      | _, isFalse differ => isFalse fun e => by cases e; exact differ rfl
    else isFalse fun e => by cases e; exact key rfl
  | [], _ :: _ => isFalse fun e => by cases e
  | _ :: _, [] => isFalse fun e => by cases e

end

instance : DecidableEq Value := decEq

/-! ## Shapes -/

def null : Value := .scalar .null

def kind : Value → String
  | .scalar s => s.kind
  | .list _ => "list"
  | .map _ => "mapping"

def isNull : Value → Bool
  | .scalar s => s.isNull
  | _ => false

def scalar? : Value → Option Scalar
  | .scalar s => some s
  | _ => none

def map? : Value → Option (Fields Value)
  | .map fields => some fields
  | _ => none

/-! ## The shown form -/

mutual

/-- The value inside a message: its shape around its content. -/
def shown : Value → String
  | .scalar s => "Scalar(" ++ s.shown ++ ")"
  | .list items => "List([" ++ ", ".intercalate (shownItems items) ++ "])"
  | .map ⟨entries⟩ => "Map(Fields([" ++ ", ".intercalate (shownEntries entries) ++ "]))"

def shownItems : List Value → List String
  | [] => []
  | item :: items => item.shown :: shownItems items

def shownEntries : List (String × Value) → List String
  | [] => []
  | (key, value) :: entries =>
    ("(" ++ Text.quoted key ++ ", " ++ value.shown ++ ")") :: shownEntries entries

end

/-! ## Values from JSON -/

mutual

/-- The value that a JSON value stands for.  A repeated key of an object replaces the
value and keeps the first place. -/
def ofJson : Json → Value
  | .null => .scalar .null
  | .bool b => .scalar (.bool b)
  | .int n => .scalar (.int n)
  | .double x => .scalar (.float x)
  | .text s => .scalar (.text s)
  | .array items => .list (ofJsonItems items)
  | .object members => .map (Fields.ofList (ofJsonMembers members))

def ofJsonItems : List Json → List Value
  | [] => []
  | item :: items => ofJson item :: ofJsonItems items

def ofJsonMembers : List (String × Json) → List (String × Value)
  | [] => []
  | (key, value) :: members => (key, ofJson value) :: ofJsonMembers members

end

end Value

end SqlAssembly
