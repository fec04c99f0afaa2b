import SqlAssembly.Identifier
import SqlAssembly.Statement

/-! # Drafts

A draft collects the parts of one statement before it is assembled.  Input has already
become fragments when it arrives here, so a draft holds nothing that still has to be
interpreted.

The first error stays in the draft: a change that can fail does nothing after it, and
the draft can no longer be assembled.  Changes that cannot fail are still made.
-/

namespace SqlAssembly

inductive Connective where
  | and
  | or
  deriving DecidableEq, Repr

namespace Connective

def combinator : Connective → Combinator
  | .and => .and
  | .or => .or

end Connective

/-- The groups of conditions that are already closed, joined into one fragment. -/
structure Grouping where
  fragment : Fragment
  connective : Connective
  -- How many groups stand side by side in the fragment.
  groups : Nat
  deriving DecidableEq, Repr

inductive Selection where
  | expression (text : String)
  | columns (tokens : List String)
  | fragment (f : Fragment)
  deriving DecidableEq, Repr

inductive Source where
  | tables (tokens : List String)
  | subquery (f : Fragment)
  deriving DecidableEq, Repr

/-- A join; one without a kind is written out by the caller. -/
structure Join where
  kind : Option JoinKind
  target : Fragment
  on : Option Fragment
  deriving DecidableEq, Repr

inductive LockMode where
  | update
  | share
  deriving DecidableEq, Repr

namespace LockMode

def keyword : LockMode → String
  | .update => "FOR UPDATE"
  | .share => "FOR SHARE"

end LockMode

inductive InsertMode where
  | insert
  | replace
  | ignore
  -- The present row is changed by the draft's update payload.
  | upsert
  deriving DecidableEq, Repr

structure Draft where
  dialect : Dialect
  error : Option AssemblyError := none
  -- The conditions of the group that is still open.
  conditions : List Fragment := []
  grouping : Option Grouping := none
  having : List Fragment := []
  selection : Option Selection := none
  source : Option Source := none
  joins : List Join := []
  order : List OrderSpec := []
  groups : List String := []
  limit : Option Nat := none
  offset : Option Nat := none
  insertion : Option (InsertMode × Fragment) := none
  assignment : Option Fragment := none
  deletes : Bool := false
  risky : Bool := false
  -- The name under which a select can be used as a table.
  tableName : Option String := none
  lock : Option LockMode := none
  deriving DecidableEq

namespace Draft

def start (dialect : Dialect) : Draft := { dialect := dialect }

/-- Whether a condition is present, in a closed group or the open one. -/
def hasConditions (d : Draft) : Bool :=
  d.grouping.isSome || !d.conditions.isEmpty

def targetsTable (d : Draft) : Bool := d.source.isSome

def hasLimit (d : Draft) : Bool := d.limit.isSome

/-- Makes a change with a result that may be an error.  The draft keeps its first error
and makes no such change after it. -/
def accept {α : Type} (d : Draft) (result : Except AssemblyError α) (change : α → Draft) :
    Draft :=
  match d.error with
  | some _ => d
  | none =>
    match result with
    | .ok a => change a
    | .error e => { d with error := some e }

/-- Refuses the statement with an error, unless one is present. -/
def refuse (d : Draft) (error : AssemblyError) : Draft :=
  d.accept (Except.error error : Except AssemblyError Unit) fun () => d

/-- Adds a condition to the open group, unless it is blank. -/
def addCondition (d : Draft) (condition : Except AssemblyError Fragment) : Draft :=
  d.accept condition fun f =>
    if f.isBlank then d else { d with conditions := d.conditions ++ [f] }

def addHaving (d : Draft) (condition : Except AssemblyError Fragment) : Draft :=
  d.accept condition fun f =>
    if f.isBlank then d else { d with having := d.having ++ [f] }

def select (d : Draft) (selection : Selection) : Draft :=
  { d with selection := some selection }

def setTable (d : Draft) (token : String) : Draft :=
  { d with source := some (.tables [token]) }

/-- Adds a table to the tables of the source; a subquery gives way to it. -/
def addTable (d : Draft) (token : String) : Draft :=
  match d.source with
  | some (.tables tokens) => { d with source := some (.tables (tokens ++ [token])) }
  | _ => d.setTable token

def setSubquery (d : Draft) (subquery : Except AssemblyError Fragment) : Draft :=
  d.accept subquery fun f => { d with source := some (.subquery f) }

def addJoin (d : Draft) (join : Except AssemblyError Join) : Draft :=
  d.accept join fun j => { d with joins := d.joins ++ [j] }

/-- Sets the lock, if the dialect has locks. -/
def setLock (d : Draft) (mode : LockMode) : Draft :=
  let supported : Except AssemblyError Unit :=
    if d.dialect.supportsLocks then .ok () else .error (.unsupportedLock d.dialect)
  d.accept supported fun () => { d with lock := some mode }

def payload (kind : Payload) (input : Except AssemblyError Fragment) :
    Except AssemblyError Fragment := do
  let f ← input
  if f.isBlank then .error (.noPayload kind) else return f

def setInsertion (d : Draft) (mode : InsertMode) (input : Except AssemblyError Fragment) : Draft :=
  d.accept (payload .insert input) fun f => { d with insertion := some (mode, f) }

def setAssignment (d : Draft) (input : Except AssemblyError Fragment) : Draft :=
  d.accept (payload .update input) fun f => { d with assignment := some f }

end Draft

end SqlAssembly
