import SqlAssembly.Draft.Conditions

/-! # Assembling a statement

`Draft.build` turns a draft into a statement.  A delete comes before an insert, an insert
before an update, and an update before a select; a draft without a source is SQL text of
the caller, made of its conditions.  Updates and deletes need a condition unless the
draft is risky.
-/

namespace SqlAssembly

namespace Join

/-- The target behind the words of the join; a join that is written out has none. -/
def announced (j : Join) : Fragment :=
  match j.kind with
  | some kind => j.target.prefixed (kind.keyword ++ " ")
  | none => j.target

def fragment (j : Join) : Fragment :=
  match j.on with
  | some condition => j.announced.append (condition.prefixed "ON ") " "
  | none => j.announced

end Join

namespace Draft

def sourceFragment (d : Draft) : Except AssemblyError Fragment :=
  match d.source with
  | none => .error .noTable
  | some (.subquery f) => .ok f
  | some (.tables tokens) => .ok (.raw (", ".intercalate (tokens.map d.dialect.quoteToken)))

def sourceWithJoins (d : Draft) : Except AssemblyError Fragment := do
  let source ← d.sourceFragment
  return d.joins.foldl (fun f j => f.append j.fragment "\n") source

def withConditions (d : Draft) (statement : Fragment) : Fragment :=
  let conditions := d.consolidated
  if conditions.isBlank then statement else statement.append (conditions.prefixed "WHERE ") "\n"

/-- What is selected, behind the keyword; everything where nothing was said. -/
def selectFragment (d : Draft) : Fragment :=
  match d.selection with
  | some (.expression text) =>
    if Text.isBlank text then .raw "SELECT *" else .raw ("SELECT " ++ d.dialect.quoteToken text)
  | some (.columns tokens) =>
    if tokens.isEmpty then .raw "SELECT *"
    else .raw ("SELECT " ++ ", ".intercalate (tokens.map d.dialect.quoteToken))
  | some (.fragment f) => f.prefixed "SELECT "
  | none => .raw "SELECT *"

def groupLine (d : Draft) : Fragment :=
  if d.groups.isEmpty then .empty
  else .raw ("GROUP BY " ++ ", ".intercalate (d.groups.map d.dialect.groupItem))

def havingLine (d : Draft) : Fragment :=
  if d.having.isEmpty then .empty else (Fragment.join .and d.having).prefixed "HAVING "

def orderLine (d : Draft) : Fragment :=
  if d.order.isEmpty then .empty
  else .raw ("ORDER BY " ++ ", ".intercalate (d.order.map (OrderSpec.sql d.dialect)))

def limitLine (d : Draft) : Fragment :=
  .raw ((d.dialect.limitClause d.limit d.offset).getD "")

def lockLine (d : Draft) : Fragment :=
  .raw ((d.lock.map LockMode.keyword).getD "")

/-- A select under the draft's name, as a table of its own. -/
def aliased (d : Draft) (statement : Fragment) : Fragment :=
  match d.tableName with
  | none => statement
  | some name =>
    { statement with sql := "( " ++ statement.sql ++ " ) " ++ d.dialect.quoteIdentifier name }

/-- The select statement.  A line that a draft does not need is empty and adds nothing. -/
def buildSelect (d : Draft) : Except AssemblyError Statement := do
  let source ← d.sourceWithJoins
  let selected := d.withConditions (d.selectFragment.append (source.prefixed "FROM ") "\n")
  let lines := [d.groupLine, d.havingLine, d.orderLine, d.limitLine, d.lockLine]
  return ⟨.select, d.aliased (lines.foldl (fun f line => f.append line "\n") selected)⟩

def insertKeyword (d : Draft) : InsertMode → String
  | .insert => "INSERT INTO"
  | .upsert => "INSERT INTO"
  | .replace => d.dialect.replaceKeyword
  | .ignore => d.dialect.ignoreKeyword

/-- The insert statement.  It never has conditions. -/
def buildInsert (d : Draft) (mode : InsertMode) (rows : Fragment) :
    Except AssemblyError Statement := do
  let source ← d.sourceFragment
  let inserted := (source.prefixed (d.insertKeyword mode ++ " ")).append rows " "
  if mode = .upsert then
    match d.assignment with
    | none => .error (.noPayload .update)
    | some changes =>
      let update := changes.prefixed (d.dialect.upsertKeyword ++ " ")
      return ⟨.insert, inserted.append update "\n"⟩
  else return ⟨.insert, inserted⟩

/-- Whether a statement that changes rows may be assembled: it has a condition, or it is
risky. -/
def isGuarded (d : Draft) : Bool := d.risky || d.hasConditions

def buildUpdate (d : Draft) (changes : Fragment) : Except AssemblyError Statement :=
  if d.isGuarded then do
    let source ← d.sourceWithJoins
    let updated := (source.prefixed "UPDATE ").append (changes.prefixed "SET ") "\n"
    return ⟨.update, d.withConditions updated⟩
  else .error .unguardedUpdate

def buildDelete (d : Draft) : Except AssemblyError Statement :=
  if d.isGuarded then do
    let source ← d.sourceWithJoins
    return ⟨.delete, d.withConditions (source.prefixed "DELETE FROM ")⟩
  else .error .unguardedDelete

/-- Whether a part is present that only makes sense with a table. -/
def needsTable (d : Draft) : Bool :=
  !d.joins.isEmpty || !d.order.isEmpty || !d.groups.isEmpty || !d.having.isEmpty
    || d.limit.isSome || d.offset.isSome

def buildRaw (d : Draft) : Except AssemblyError Statement :=
  if d.needsTable then .error .noTable
  else if d.consolidated.isBlank then .error .emptyStatement
  else .ok (.raw d.consolidated)

def build (d : Draft) : Except AssemblyError Statement :=
  match d.error with
  | some e => .error e
  | none =>
    if d.deletes then d.buildDelete
    else
      match d.insertion, d.assignment with
      | some (mode, rows), _ => d.buildInsert mode rows
      | none, some changes => d.buildUpdate changes
      | none, none => if d.targetsTable then d.buildSelect else d.buildRaw

end Draft

end SqlAssembly
