import SqlAssembly.CommandLine.Outcome
import SqlAssembly.Proofs.Query.Consolidated

/-! # What restricts a change of rows

An update or a delete is restricted by its conditions alone.  Every step is made on every
draft, also one that orders rows or limits their number, but only selects read what these
steps leave behind, so that in an update or a delete such a step makes no difference.

* `Query.unlimited` — a query without the steps that order rows or limit their number.
* `Step.unlimited_applyAll` — what these steps leave behind is all that they do.
* `Query.build_change_unlimited` — the conditions are in an update or a delete, and limits and
  orders make no difference to it.
* `CommandLine.render_unlimited` — nor do they on the command line.
-/

namespace SqlAssembly

/-! ## Steps that limit -/

def Step.isLimiting : Step → Bool
  | .order _ => true
  | .limit _ => true
  | .offset _ => true
  | _ => false

/-- A query without the steps that order rows or limit their number. -/
def Query.unlimited : Query → Query
  | .mk dialect steps => .mk dialect (steps.filter fun step => !step.isLimiting)

/-- The draft without an order of rows and without limits. -/
def Draft.unlimited (d : Draft) : Draft := { d with order := [], limit := none, offset := none }

theorem Draft.unlimited_accept {α : Type} {d : Draft} {result : Except AssemblyError α}
    {change change' : α → Draft} (same : ∀ a, (change a).unlimited = change' a) :
    (d.accept result change).unlimited = d.unlimited.accept result change' := by
  have error : d.unlimited.error = d.error := rfl
  unfold accept
  rw [error]
  cases given : d.error with
  | some e => rfl
  | none =>
    cases result with
    | ok a => exact same a
    | error e => rfl

theorem Draft.unlimited_setInsertion (d : Draft) (mode : InsertMode)
    (input : Except AssemblyError Fragment) :
    (d.setInsertion mode input).unlimited = d.unlimited.setInsertion mode input :=
  Draft.unlimited_accept fun _ => rfl

theorem Draft.unlimited_setAssignment (d : Draft) (input : Except AssemblyError Fragment) :
    (d.setAssignment input).unlimited = d.unlimited.setAssignment input :=
  Draft.unlimited_accept fun _ => rfl

theorem Step.unlimited_apply {step : Step} (other : step.isLimiting = false) (d : Draft) :
    (step.apply d).unlimited = step.apply d.unlimited := by
  cases step with
  | order | limit | offset => cases other
  | filter | having =>
    simp only [Step.apply, Draft.addCondition, Draft.addHaving]
    refine Draft.unlimited_accept fun f => ?_
    split <;> rfl
  | addTable token =>
    simp only [Step.apply, Draft.addTable]
    have source : d.unlimited.source = d.source := rfl
    rw [source]
    split <;> rfl
  | upsert rows changes =>
    simp only [Step.apply]
    rw [Draft.unlimited_setInsertion, Draft.unlimited_setAssignment]
    rfl
  | join target kind on =>
    cases on <;>
    · simp only [Step.apply, Draft.addJoin]
      exact Draft.unlimited_accept fun _ => rfl
  | refuse | regroup | setSubquery | joinRaw | lock | insert | replace | insertIgnore | update =>
    simp only [Step.apply, Draft.refuse, Draft.regroup, Draft.setSubquery, Draft.addJoin,
      Draft.setLock, Draft.setInsertion, Draft.setAssignment]
    exact Draft.unlimited_accept fun _ => rfl
  | select | setTable | named | group | risky | delete =>
    simp only [Step.apply, Draft.select, Draft.setTable]
    rfl

theorem Step.unlimited_apply_of_isLimiting {step : Step} (limiting : step.isLimiting = true)
    (d : Draft) : (step.apply d).unlimited = d.unlimited := by
  cases step with
  | order | limit | offset =>
    simp only [Step.apply]
    rfl
  | _ => cases limiting

/-- Without what they leave behind, steps that limit might as well not have been made. -/
theorem Step.unlimited_applyAll (steps : List Step) (d : Draft) :
    (Step.applyAll steps d).unlimited =
      Step.applyAll (steps.filter fun step => !step.isLimiting) d.unlimited := by
  induction steps generalizing d with
  | nil => simp only [List.filter_nil, Step.applyAll]
  | cons step steps inductionHypothesis =>
    simp only [Step.applyAll]
    rw [inductionHypothesis]
    cases limiting : step.isLimiting with
    | true =>
      rw [unlimited_apply_of_isLimiting limiting, List.filter_cons_of_neg (by simp [limiting])]
    | false =>
      rw [unlimited_apply limiting, List.filter_cons_of_pos (by simp [limiting])]
      simp only [Step.applyAll]

theorem Query.draft_unlimited (query : Query) : query.unlimited.draft = query.draft.unlimited := by
  obtain ⟨dialect, steps⟩ := query
  simp only [Query.unlimited, Query.draft]
  rw [Step.unlimited_applyAll]
  rfl

/-! ## Drafts that change rows -/

/-- Whether a draft is refused or becomes a statement that changes rows. -/
def Draft.isChange (d : Draft) : Bool :=
  d.error.isSome || d.deletes || d.insertion.isSome || d.assignment.isSome

/-- What a select would read, such a draft does not. -/
theorem Draft.build_reread {d : Draft} (change : d.isChange = true) (selection : Option Selection)
    (order : List OrderSpec) (limit offset : Option Nat) :
    { d with selection := selection, order := order, limit := limit, offset := offset }.build =
      d.build := by
  unfold build
  simp only
  split
  · rfl
  · rename_i fine
    split
    · rfl
    · rename_i remains
      split
      · rfl
      · rfl
      · rename_i noInsertion noAssignment
        simp [isChange, fine, remains, noInsertion, noAssignment] at change

theorem Draft.build_unlimited {d : Draft} (change : d.isChange = true) :
    d.unlimited.build = d.build := d.build_reread change d.selection [] none none

theorem Draft.isChange_of_build {d : Draft} {s : Statement} (built : d.build = .ok s)
    (changes : s.kind = .update ∨ s.kind = .delete) : d.isChange = true := by
  unfold build at built
  split at built
  · cases built
  · split at built
    · rename_i deletes
      simp [isChange, deletes]
    · split at built
      · rename_i insertion
        simp [isChange, insertion]
      · rename_i assignment
        simp [isChange, assignment]
      · split at built
        · simp [kind_of_buildSelect built] at changes
        · simp [kind_of_buildRaw built] at changes

/-- Queries that differ in limits only change rows in the same way. -/
theorem Query.build_eq_of_unlimited_eq {query other : Query} (same : other.unlimited = query.unlimited)
    (change : query.draft.isChange = true) : other.build = query.build := by
  have drafts : other.draft.unlimited = query.draft.unlimited := by
    rw [← Query.draft_unlimited, ← Query.draft_unlimited, same]
  have changeToo : other.draft.isChange = true := by
    have kept := congrArg Draft.isChange drafts
    exact kept.trans change
  rw [Query.build_eq, Query.build_eq, ← Draft.build_unlimited changeToo, drafts,
    Draft.build_unlimited change]

theorem Draft.withConditions_params {d : Draft} {statement : Fragment}
    (visible : d.consolidated.isBlank = false) :
    (d.withConditions statement).params = statement.params ++ d.consolidated.params := by
  simp only [withConditions]
  rw [if_neg (by simp [visible]), Fragment.params_separated]
  rfl

/-- **Only conditions restrict a change of rows.**  An update or a delete ends in the text of all of
its conditions and has their parameters last, in order.  Any other query that has the same steps,
up to those that order rows or limit their number, is built as the same statement. -/
theorem Query.build_change_unlimited {query : Query} {s : Statement} (built : query.build = .ok s)
    (changes : s.kind = .update ∨ s.kind = .delete) :
    (query.conditions ≠ [] → ∃ statement : Fragment,
      s.sql = statement.sql ++ "\nWHERE " ++ query.draft.consolidated.sql ∧
        s.params = statement.params ++ query.conditions.flatMap Fragment.params) ∧
      (∀ f ∈ query.conditions, Text.IsWithin f.sql query.draft.consolidated.sql) ∧
      ∀ other : Query, other.unlimited = query.unlimited → other.build = .ok s := by
  have assembled : query.draft.build = .ok s := by rwa [← Query.build_eq]
  have fine := Draft.error_eq_none_of_build assembled
  refine ⟨fun given => ?_, fun f => Query.isWithin_consolidated fine, fun other same => ?_⟩
  · have visible := Query.isBlank_consolidated fine given
    obtain ⟨-, statement, begun, fragment⟩ := Draft.guarded_of_build assembled changes
    refine ⟨statement, ?_, ?_⟩
    · rw [Statement.sql, fragment, Draft.withConditions_sql visible begun]
    · rw [Statement.params, fragment, Draft.withConditions_params visible,
        Query.params_consolidated fine]
  · rw [Query.build_eq_of_unlimited_eq same (Draft.isChange_of_build assembled changes), built]

/-- An update that keeps its condition and loses its limit. -/
theorem Query.build_change_unlimited_update :
    let limited : Query := .mk .mysql
      [.setTable "t", .filter (.id 7) {}, .order "age",
        .update (.mapping ⟨[("seen", .scalar (.bool true))]⟩), .limit 5]
    let unlimited : Query := .mk .mysql
      [.setTable "t", .filter (.id 7) {}, .update (.mapping ⟨[("seen", .scalar (.bool true))]⟩)]
    let s : Statement :=
      ⟨.update, "UPDATE \x60t\x60\nSET \x60seen\x60 = ?\nWHERE \x60id\x60 = ?", [.bool true, .int 7]⟩
    limited.build = .ok s ∧ unlimited.build = .ok s := by
  intro limited unlimited s
  have built : limited.build = .ok s := rfl
  obtain ⟨-, -, others⟩ := Query.build_change_unlimited built (.inl rfl)
  exact ⟨built, others unlimited rfl⟩

/-- A delete of one row at most, as it is built: no limit is left. -/
theorem Query.build_delete_drops_limit :
    let query : Query := .mk .sqlite
      [.setTable "users", .filterEq "active" (.scalar (.bool false)), .order "age", .limit 1, .delete]
    query.build = .ok
        ⟨.delete, "DELETE FROM \"users\"\nWHERE \"active\" = ?", [.bool false]⟩ ∧
      query.draft.limit = some 1 ∧ Dialect.sqlite.limitClause (some 1) none = some "LIMIT 1" ∧
      ¬Text.IsWithin "LIMIT 1" "DELETE FROM \"users\"\nWHERE \"active\" = ?" := by
  intro query
  refine ⟨rfl, rfl, rfl, fun within => ?_⟩
  have letter : 'I' ∈ "DELETE FROM \"users\"\nWHERE \"active\" = ?".toList :=
    within.subset (by decide)
  exact absurd letter (by decide)

/-! ## The command line -/

namespace CommandLine

def Target.unlimited (target : Target) : Target :=
  { target with order := [], limit := none, offset := none }

theorem filter_steps (target : Target) :
    target.steps.filter (fun step => !step.isLimiting) =
      target.unlimited.steps.filter fun step => !step.isLimiting := by
  have limits (n : Option Nat) (step : Nat → Step) (limiting : ∀ k, (step k).isLimiting = true) :
      (n.map step).toList.filter (fun step => !step.isLimiting) = [] := by
    cases n <;> simp [limiting]
  have order : (target.order.map Step.order).filter (fun step => !step.isLimiting) = [] := by
    simp [Step.isLimiting]
  simp only [Target.steps, Target.unlimited, List.filter_append, order,
    limits _ Step.limit fun _ => rfl, limits _ Step.offset fun _ => rfl, List.map_nil, List.filter_nil]

/-- Steps that end in one that changes rows, and in the permission to change all of them. -/
theorem isChange_steps {front : List Step} {change : Step} (risky : Bool) (d : Draft)
    (changes : ∀ d : Draft, (change.apply d).isChange = true) :
    (Step.applyAll (front ++ [change] ++ riskySteps risky) d).isChange = true := by
  induction front generalizing d with
  | nil =>
    have changed := changes d
    cases risky with
    | false =>
      have none : riskySteps false = [] := rfl
      simpa only [none, List.nil_append, List.append_nil, Step.applyAll] using changed
    | true =>
      have one : riskySteps true = [.risky] := rfl
      simp only [one, List.nil_append, List.cons_append, Step.applyAll, Step.apply]
      exact changed
  | cons step front inductionHypothesis =>
    simp only [List.cons_append, Step.applyAll]
    exact inductionHypothesis (step.apply d)

theorem build_steps_unlimited (dialect : Dialect) (target : Target) {change : Step} (risky : Bool)
    (changes : ∀ d : Draft, (change.apply d).isChange = true) :
    ((Query.start dialect).extend (target.unlimited.steps ++ [change] ++ riskySteps risky)).build =
      ((Query.start dialect).extend (target.steps ++ [change] ++ riskySteps risky)).build := by
  refine Query.build_eq_of_unlimited_eq ?_ ?_
  · simp only [Query.extend, Query.start, Query.steps, Query.dialect, Query.unlimited,
      List.nil_append, List.filter_append, filter_steps target]
  · simp only [Query.extend, Query.start, Query.steps, Query.dialect, List.nil_append, Query.draft]
    exact isChange_steps risky _ changes

theorem isChange_delete (d : Draft) : (Step.delete.apply d).isChange = true := by
  simp [Step.apply, Draft.isChange]

theorem isChange_update (changes : Input) (d : Draft) :
    ((Step.update changes).apply d).isChange = true := by
  simp only [Step.apply, Draft.setAssignment, Draft.accept]
  split
  · rename_i error
    simp [Draft.isChange, error]
  · split <;> simp [Draft.isChange]

/-- Limits and orders that are given with an update or a delete make no difference to what is
printed of it. -/
theorem render_unlimited (i : Invocation) (target : Target) (risky : Bool) :
    render i (.delete target.unlimited risky) = render i (.delete target risky) ∧
      ∀ changes, render i (.update target.unlimited changes risky) =
        render i (.update target changes risky) := by
  constructor
  · simp only [render, StatementRequest.steps, Printing.silently_ok_bind]
    congr 1
    funext dialect
    rw [build_steps_unlimited dialect target risky isChange_delete]
  · intro changes
    rw [render, render]
    congr 1
    funext dialect
    cases given : payload "set" changes with
    | error failure =>
      have refused (target : Target) :
          StatementRequest.steps (.update target changes risky) = .error failure := by
        rw [StatementRequest.steps, given]
        rfl
      rw [refused, refused]
    | ok input =>
      have read (target : Target) : StatementRequest.steps (.update target changes risky) =
          .ok (target.steps ++ [.update input] ++ riskySteps risky) := by
        rw [StatementRequest.steps, given]
        rfl
      rw [read, read, Printing.silently_ok_bind, Printing.silently_ok_bind,
        build_steps_unlimited dialect target risky (isChange_update input)]

end CommandLine

end SqlAssembly
