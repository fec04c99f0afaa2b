import Mathlib.Logic.Relation
import SqlAssembly.Query.Assembly

/-! # The first failure of a query

What a step is refused for depends on the dialect and on the step alone, so each step of a
query fails or succeeds on its own.  The draft holds the failure of the first step that
fails, and nothing that follows takes it away.  A query inside another one is assembled by
the step that receives it, so its failure is the failure of that step.

* `Step.failure?` — what a step is refused for.
* `Draft.Records`, `Step.records`, `Query.error_draft` — the error of a draft is the failure
  of the first step that fails.
* `Step.Receives`, `Query.Takes` — queries inside queries.
* `Query.error_of_takes` — a failure reaches every query around the one that fails.
-/

namespace SqlAssembly

/-! ## What a step is refused for -/

/-- The error that a computation ends in, if it does. -/
def failureOf {α : Type} : Except AssemblyError α → Option AssemblyError
  | .ok _ => none
  | .error e => some e

section

variable {α β : Type}

theorem failureOf_eq_some_iff {result : Except AssemblyError α} {e : AssemblyError} :
    failureOf result = some e ↔ result = .error e := by
  cases result <;> simp [failureOf]

theorem failureOf_bind (first : Except AssemblyError α) (next : α → Except AssemblyError β) :
    failureOf (first >>= next) =
      (failureOf first).or (first.toOption.bind fun a => failureOf (next a)) := by
  cases first <;> rfl

theorem failureOf_bind_pure (first : Except AssemblyError α) (f : α → β) :
    failureOf (first >>= fun a => pure (f a)) = failureOf first := by
  cases first <;> rfl

end

/-- What a step is refused for in a dialect, if it is.  Of two arguments the one that is
looked at first decides. -/
def Step.failure? (dialect : Dialect) : Step → Option AssemblyError
  | .filter input options => failureOf (input.conform dialect .filter options)
  | .refuse error => some error
  | .having input => failureOf (input.conform dialect .having {})
  | .setSubquery query => failureOf query.build
  | .join target _ on =>
    (failureOf (target.conform dialect)).or
      (on.bind fun input => failureOf (input.conform dialect .filter { identity := true }))
  | .joinRaw source => failureOf (Fragment.conform source .newline)
  | .lock _ => if dialect.supportsLocks then none else some (.unsupportedLock dialect)
  | .insert rows => failureOf (Draft.payload .insert (rows.conform dialect .insert {}))
  | .replace rows => failureOf (Draft.payload .insert (rows.conform dialect .insert {}))
  | .insertIgnore rows => failureOf (Draft.payload .insert (rows.conform dialect .insert {}))
  | .upsert rows changes =>
    (failureOf (Draft.payload .update (changes.conform dialect .update {}))).or
      (failureOf (Draft.payload .insert (rows.conform dialect .insert {})))
  | .update changes => failureOf (Draft.payload .update (changes.conform dialect .update {}))
  | _ => none

/-! ## The draft holds the first failure -/

/-- A change records a failure: the error that comes first stays, and the dialect does. -/
structure Draft.Records (failure : Option AssemblyError) (d d' : Draft) : Prop where
  error : d'.error = d.error.or failure
  dialect : d'.dialect = d.dialect

namespace Draft

variable {d : Draft}

theorem Records.trans {a b c : Draft} {failure failure' : Option AssemblyError}
    (first : Records failure a b) (second : Records failure' b c) :
    Records (failure.or failure') a c := by
  refine ⟨?_, second.dialect.trans first.dialect⟩
  rw [second.error, first.error, Option.or_assoc]

theorem Records.none {d' : Draft} (error : d'.error = d.error) (dialect : d'.dialect = d.dialect) :
    Records .none d d' :=
  ⟨by rw [error, Option.or_none], dialect⟩

theorem records_accept {α : Type} {result : Except AssemblyError α} {change : α → Draft}
    (error : ∀ a, (change a).error = d.error) (dialect : ∀ a, (change a).dialect = d.dialect) :
    Records (failureOf result) d (d.accept result change) := by
  cases given : d.error with
  | some e => constructor <;> simp [accept, given]
  | none =>
    cases result with
    | ok a => constructor <;> simp [accept, given, error a, dialect a, failureOf]
    | error e => constructor <;> simp [accept, given, failureOf]

theorem records_setInsertion (mode : InsertMode) (input : Except AssemblyError Fragment) :
    Records (failureOf (payload .insert input)) d (d.setInsertion mode input) :=
  records_accept (fun _ => rfl) fun _ => rfl

theorem records_setAssignment (input : Except AssemblyError Fragment) :
    Records (failureOf (payload .update input)) d (d.setAssignment input) :=
  records_accept (fun _ => rfl) fun _ => rfl

end Draft

namespace Step

theorem failure?_join (dialect : Dialect) (target : JoinTarget) (kind : JoinKind) (on : Option Input) :
    (failureOf do
      let target ← target.conform dialect
      match on with
      | none => return (⟨some kind, target, none⟩ : Join)
      | some input =>
        let condition ← input.conform dialect .filter { identity := true }
        return ⟨some kind, target, some condition⟩) =
      (Step.join target kind on).failure? dialect := by
  rw [failureOf_bind, failure?]
  cases target.conform dialect with
  | error e => rfl
  | ok f =>
    cases on with
    | none => rfl
    | some input =>
      simp only [Except.toOption, Option.bind_some]
      rw [failureOf_bind_pure]

/-- Every step records what it is refused for. -/
theorem records (step : Step) (d : Draft) :
    Draft.Records (step.failure? d.dialect) d (step.apply d) := by
  cases step with
  | filter input options | having input =>
    simp only [apply, Draft.addCondition, Draft.addHaving]
    refine Draft.records_accept ?_ ?_ <;> intro f <;> split <;> rfl
  | refuse error =>
    simp only [apply, Draft.refuse]
    change Draft.Records (failureOf (.error error : Except AssemblyError Unit)) d _
    exact Draft.records_accept (fun _ => rfl) fun _ => rfl
  | regroup connective =>
    simp only [apply, Draft.regroup]
    change Draft.Records (failureOf (.ok () : Except AssemblyError Unit)) d _
    exact Draft.records_accept (fun _ => rfl) fun _ => rfl
  | addTable token =>
    simp only [apply, Draft.addTable]
    split <;> exact .none rfl rfl
  | setSubquery query =>
    simp only [apply, Draft.setSubquery, failure?]
    rw [← failureOf_bind_pure query.build Statement.fragment]
    exact Draft.records_accept (fun _ => rfl) fun _ => rfl
  | join target kind on =>
    rw [← failure?_join d.dialect target kind on]
    cases on <;>
    · simp only [apply, Draft.addJoin]
      exact Draft.records_accept (fun _ => rfl) fun _ => rfl
  | joinRaw source =>
    simp only [apply, Draft.addJoin, failure?]
    rw [← failureOf_bind_pure (Fragment.conform source .newline) (Join.mk none · none)]
    exact Draft.records_accept (fun _ => rfl) fun _ => rfl
  | lock mode =>
    have refused : (Step.lock mode).failure? d.dialect = failureOf
        (if d.dialect.supportsLocks then .ok () else .error (.unsupportedLock d.dialect) :
          Except AssemblyError Unit) := by
      rw [failure?]
      split <;> rfl
    simp only [apply, Draft.setLock, refused]
    exact Draft.records_accept (fun _ => rfl) fun _ => rfl
  | insert rows | replace rows | insertIgnore rows =>
    simp only [apply, failure?]
    exact Draft.records_setInsertion _ _
  | update changes =>
    simp only [apply, failure?]
    exact Draft.records_setAssignment _
  | upsert rows changes =>
    simp only [apply, failure?]
    exact (Draft.records_setAssignment _).trans (Draft.records_setInsertion .upsert _)
  | select | setTable | named | order | group | limit | offset | risky | delete =>
    simp only [apply, Draft.select, Draft.setTable, failure?]
    exact .none rfl rfl

theorem records_applyAll (steps : List Step) (d : Draft) :
    Draft.Records (steps.findSome? (failure? d.dialect)) d (applyAll steps d) := by
  induction steps generalizing d with
  | nil =>
    simp only [applyAll]
    exact .none rfl rfl
  | cons step steps inductionHypothesis =>
    have first := step.records d
    have rest := inductionHypothesis (step.apply d)
    rw [first.dialect] at rest
    simp only [applyAll]
    have both := first.trans rest
    rw [List.findSome?_cons]
    cases failure : step.failure? d.dialect with
    | none => simpa only [failure, Option.none_or] using both
    | some e => simpa only [failure, Option.some_or] using both

end Step

namespace Query

/-- The failure of the first step of a query that fails. -/
def firstFailure? (query : Query) : Option AssemblyError :=
  query.steps.findSome? (Step.failure? query.dialect)

theorem dialect_draft (query : Query) : query.draft.dialect = query.dialect := by
  obtain ⟨dialect, steps⟩ := query
  simp only [draft]
  exact (Step.records_applyAll steps (Draft.start dialect)).dialect

theorem error_draft (query : Query) : query.draft.error = query.firstFailure? := by
  obtain ⟨dialect, steps⟩ := query
  simp only [draft]
  exact (Step.records_applyAll steps (Draft.start dialect)).error.trans (Option.none_or)

theorem firstFailure?_extend (query : Query) (more : List Step) :
    (query.extend more).firstFailure? =
      query.firstFailure?.or (more.findSome? (Step.failure? query.dialect)) :=
  List.findSome?_append

theorem error_extend {query : Query} {e : AssemblyError} (latched : query.draft.error = some e)
    (more : List Step) : (query.extend more).draft.error = some e := by
  rw [error_draft] at latched ⊢
  rw [firstFailure?_extend, latched, Option.some_or]

theorem build_of_error {query : Query} {e : AssemblyError} (latched : query.draft.error = some e) :
    query.build = .error e := by
  rw [build_eq]
  simp only [Draft.build, latched]

end Query

/-! ## Queries inside queries -/

/-- An input is a query, under any options. -/
inductive Input.Holds : Input → Query → Prop
  | subquery (query : Query) : Holds (.subquery query) query
  | overridden {input : Input} {query : Query} (options : FieldOptions) :
      Holds input query → Holds (.overridden input options) query

theorem Input.Holds.conform {input : Input} {query : Query} {e : AssemblyError}
    (holds : input.Holds query) (failed : query.build = .error e) (dialect : Dialect)
    (clause : Clause) (call : FieldOptions) : input.conform dialect clause call = .error e := by
  induction holds generalizing call with
  | subquery query =>
    simp only [Input.conform, failed]
    rfl
  | overridden options _ inductionHypothesis =>
    simp only [Input.conform]
    exact inductionHypothesis failed (call.merge options)

theorem Input.Holds.payload {input : Input} {query : Query} {e : AssemblyError}
    (holds : input.Holds query) (failed : query.build = .error e) (dialect : Dialect)
    (clause : Clause) (kind : Payload) :
    failureOf (Draft.payload kind (input.conform dialect clause {})) = some e := by
  rw [holds.conform failed]
  rfl

/-- A step receives a query as one of its arguments.  An argument that is looked at before does
not fail. -/
inductive Step.Receives (dialect : Dialect) (query : Query) : Step → Prop
  | filter {input : Input} (options : FieldOptions) :
      input.Holds query → Receives dialect query (.filter input options)
  | having {input : Input} : input.Holds query → Receives dialect query (.having input)
  | setSubquery : Receives dialect query (.setSubquery query)
  | joinTarget (kind : JoinKind) (on : Option Input) :
      Receives dialect query (.join (.subquery query) kind on)
  | joinCondition {target : JoinTarget} (kind : JoinKind) {input : Input} :
      failureOf (target.conform dialect) = none → input.Holds query →
      Receives dialect query (.join target kind (some input))
  | insert {rows : Input} : rows.Holds query → Receives dialect query (.insert rows)
  | replace {rows : Input} : rows.Holds query → Receives dialect query (.replace rows)
  | insertIgnore {rows : Input} : rows.Holds query → Receives dialect query (.insertIgnore rows)
  | upsertChanges {changes : Input} (rows : Input) :
      changes.Holds query → Receives dialect query (.upsert rows changes)
  | upsertRows {rows changes : Input} :
      failureOf (Draft.payload .update (changes.conform dialect .update {})) = none →
      rows.Holds query → Receives dialect query (.upsert rows changes)
  | update {changes : Input} : changes.Holds query → Receives dialect query (.update changes)

/-- A step that receives a query is refused for what the query is refused for. -/
theorem Step.Receives.failure? {dialect : Dialect} {query : Query} {step : Step} {e : AssemblyError}
    (receives : Step.Receives dialect query step) (failed : query.build = .error e) :
    step.failure? dialect = some e := by
  cases receives with
  | filter options holds | having holds =>
    exact failureOf_eq_some_iff.mpr (holds.conform failed _ _ _)
  | setSubquery => exact failureOf_eq_some_iff.mpr failed
  | joinTarget kind on =>
    simp only [Step.failure?, JoinTarget.conform, failed]
    rfl
  | joinCondition kind fine holds =>
    rw [Step.failure?, fine, Option.none_or, Option.bind_some, holds.conform failed]
    rfl
  | insert holds | replace holds | insertIgnore holds | update holds =>
    exact holds.payload failed _ _ _
  | upsertChanges rows holds =>
    rw [Step.failure?, holds.payload failed, Option.some_or]
  | upsertRows fine holds =>
    rw [Step.failure?, fine, Option.none_or, holds.payload failed]

/-- A query takes another one: a step receives it, and no step before that one fails. -/
def Query.Takes (outer inner : Query) : Prop :=
  ∃ before step after, outer.steps = before ++ step :: after ∧
    (Query.mk outer.dialect before).draft.error = none ∧ Step.Receives outer.dialect inner step

namespace Query

variable {outer inner : Query} {e : AssemblyError}

theorem Takes.error (takes : outer.Takes inner) (failed : inner.build = .error e) :
    outer.draft.error = some e := by
  obtain ⟨before, step, after, steps, fine, receives⟩ := takes
  rw [error_draft] at fine ⊢
  have passed : before.findSome? (Step.failure? outer.dialect) = none := fine
  rw [firstFailure?, steps, List.findSome?_append, passed, Option.none_or, List.findSome?_cons,
    receives.failure? failed]

/-- A failure reaches every query around the one that fails, however deep that one is. -/
theorem error_of_takes (takes : Relation.TransGen Takes outer inner)
    (failed : inner.build = .error e) : outer.draft.error = some e := by
  induction takes with
  | single takes => exact takes.error failed
  | tail _ takes inductionHypothesis =>
    exact inductionHypothesis (build_of_error (takes.error failed))

end Query

end SqlAssembly
