import SqlAssembly.Clause.Comparison
import SqlAssembly.Clause.Rows
import SqlAssembly.Draft.Assembly
import SqlAssembly.Query.Input

/-! # Assembling queries

The steps of a query are made one after another on a draft, and the draft is assembled.
A subquery is assembled where it is used, so its errors arise there.

* `Input.conform` — an input as a fragment of a clause.
* `Step.apply` — the draft after a step.
* `Query.draft`, `Query.build` — the draft and the statement of a query.
-/

namespace SqlAssembly

/-- A fragment that is taken as it is; only a negation applies to it. -/
def passThrough (call : FieldOptions) (f : Fragment) : Fragment :=
  if call.negated then f.negate else f

/-- One field of an insert; no comparator but `=` has a meaning there. -/
def insertField (dialect : Dialect) (call : FieldOptions) (field : String)
    (comparator : Option String) (value : Value) : Except AssemblyError Fragment :=
  let row : Fields Value := Fields.empty.set field value
  match comparator with
  | none => rowsFragment dialect call [row]
  | some "=" => rowsFragment dialect call [row]
  | some other =>
    .error (.unrecognizedArgument (.clause .insert)
      ("comparator Some(" ++ Text.quoted other ++ ")"))

mutual

/-- An input as a fragment of a clause, under the options of the call. -/
def Input.conform (dialect : Dialect) (clause : Clause) :
    Input → FieldOptions → Except AssemblyError Fragment
  | .overridden input options, call => input.conform dialect clause (call.merge options)
  | .literal sql, call => .ok (passThrough call (.raw sql))
  | .fragment f, call => .ok (passThrough call f)
  | .subquery query, call => do
    let statement ← query.build
    return passThrough call statement.nested
  | .id n, call =>
    if clause.holdsConditions then
      fieldFragment dialect clause call "id" none (.scalar (.int n))
    else .error (.unrecognizedArgument (.clause clause) "integer")
  | .condition field comparator value, call =>
    if clause = .insert then insertField dialect call field comparator value
    else fieldFragment dialect clause call field comparator value
  | .mapping fields, call =>
    if clause = .insert then rowsFragment dialect call [fields]
    else mappingFragment dialect clause call fields
  | .rows rows, call =>
    if clause = .insert then rowsFragment dialect call rows
    else .error (.unrecognizedArgument (.clause clause) "list of mappings")

def JoinTarget.conform (dialect : Dialect) : JoinTarget → Except AssemblyError Fragment
  | .table token => .ok (.raw (dialect.quoteToken token))
  | .subquery query => do return (← query.build).fragment

def Step.apply : Step → Draft → Draft
  | .filter input options, d => d.addCondition (input.conform d.dialect .filter options)
  | .refuse error, d => d.refuse error
  | .regroup connective, d => d.regroup connective
  | .having input, d => d.addHaving (input.conform d.dialect .having {})
  | .select selection, d => d.select selection
  | .setTable token, d => d.setTable token
  | .addTable token, d => d.addTable token
  | .setSubquery query, d => d.setSubquery do return (← query.build).fragment
  | .named name, d => { d with tableName := some name }
  | .join target kind on, d => d.addJoin do
    let target ← target.conform d.dialect
    match on with
    | none => return ⟨some kind, target, none⟩
    | some input =>
      let condition ← input.conform d.dialect .filter { identity := true }
      return ⟨some kind, target, some condition⟩
  | .joinRaw source, d => d.addJoin do return ⟨none, ← Fragment.conform source .newline, none⟩
  | .order text, d => { d with order := d.order ++ [OrderSpec.ofText text] }
  | .group token, d => { d with groups := d.groups ++ [token] }
  | .limit count, d => { d with limit := some count }
  | .offset count, d => { d with offset := some count }
  | .lock mode, d => d.setLock mode
  | .risky, d => { d with risky := true }
  | .insert rows, d => d.setInsertion .insert (rows.conform d.dialect .insert {})
  | .replace rows, d => d.setInsertion .replace (rows.conform d.dialect .insert {})
  | .insertIgnore rows, d => d.setInsertion .ignore (rows.conform d.dialect .insert {})
  | .upsert rows changes, d =>
    (d.setAssignment (changes.conform d.dialect .update {})).setInsertion .upsert
      (rows.conform d.dialect .insert {})
  | .update changes, d => d.setAssignment (changes.conform d.dialect .update {})
  | .delete, d => { d with deletes := true }

def Step.applyAll : List Step → Draft → Draft
  | [], d => d
  | step :: steps, d => Step.applyAll steps (step.apply d)

def Query.draft : Query → Draft
  | .mk dialect steps => Step.applyAll steps (Draft.start dialect)

def Query.build : Query → Except AssemblyError Statement
  | .mk dialect steps => (Step.applyAll steps (Draft.start dialect)).build

end

theorem Query.build_eq (query : Query) : query.build = query.draft.build := by
  obtain ⟨dialect, steps⟩ := query
  simp only [Query.build, Query.draft]

theorem Step.applyAll_append (steps more : List Step) (d : Draft) :
    Step.applyAll (steps ++ more) d = Step.applyAll more (Step.applyAll steps d) := by
  induction steps generalizing d with
  | nil => simp only [List.nil_append, Step.applyAll]
  | cons step steps inductionHypothesis =>
    simp only [List.cons_append, Step.applyAll]
    exact inductionHypothesis (step.apply d)

theorem Query.draft_extend (query : Query) (more : List Step) :
    (query.extend more).draft = Step.applyAll more query.draft := by
  obtain ⟨dialect, steps⟩ := query
  simp only [Query.extend, Query.dialect, Query.steps, Query.draft]
  exact Step.applyAll_append steps more (Draft.start dialect)

end SqlAssembly
