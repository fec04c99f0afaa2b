import SqlAssembly.Proofs.Draft.Silent
import SqlAssembly.Proofs.Query.Blankness
import SqlAssembly.Proofs.Query.NullValues
import SqlAssembly.Proofs.Query.Rearrangement
import SqlAssembly.Proofs.Statement.Outline

/-! # Operands of keywords

An input that is blank is dropped before it becomes a condition, and refused where it should be a
payload, so that WHERE, HAVING, SET and the words of an upsert always have an operand.  The condition of
a join is neither dropped nor refused: its ON is written whatever stands behind it.

* `Draft.IsSupplied` — the invariant.
* `Step.on?`, `Query.ons` — the conditions of joins.
* `Query.withoutIdle` — a query without the conditions that are blank.
* `Query.Supplies` — the operands that a statement has.
-/

namespace SqlAssembly

variable {dialect : Dialect} {d : Draft} {step : Step} {f : Fragment}

/-! ## Conditions of joins and assignments -/

/-- The condition of the join that a step adds, if it adds one. -/
def Step.on? (dialect : Dialect) : Step → Option Fragment
  | .join _ _ on => on.bind fun input => (input.conform dialect .filter { identity := true }).toOption
  | _ => none

def Query.ons (query : Query) : List Fragment := query.steps.filterMap (Step.on? query.dialect)

/-- The joins of a draft have certain conditions, and its assignment is not blank. -/
structure Draft.IsSupplied (d : Draft) (ons : List Fragment) : Prop where
  ons : d.joins.filterMap Join.on = ons
  assignment : ∀ f, d.assignment = some f → f.isBlank = false

namespace Step

/-- A step that is not refused leaves alone what it has nothing to do with. -/
theorem part_of_not_concerns (fine : (step.apply d).error = none) (category : Category)
    (other : step.concerns category = false) : (step.apply d).part category = d.part category := by
  obtain ⟨start, succeeds⟩ := Option.or_eq_none_iff.mp ((step.records d).error.symm.trans fine)
  rw [part_apply start succeeds, other]
  rfl

theorem ons_addJoin {result : Except AssemblyError Join} (fine : (d.addJoin result).error = none) :
    ∃ j, result = .ok j ∧
      (d.addJoin result).joins.filterMap Join.on = d.joins.filterMap Join.on ++ j.on.toList := by
  obtain ⟨-, j, added, changed⟩ := Draft.accept_eq_of_error_eq_none fine
  refine ⟨j, added, ?_⟩
  rw [Draft.addJoin, changed, List.filterMap_append]
  cases on : j.on <;> simp [on]

theorem ons_apply (fine : (step.apply d).error = none) :
    (step.apply d).joins.filterMap Join.on =
      d.joins.filterMap Join.on ++ (step.on? d.dialect).toList := by
  cases step with
  | join target kind on =>
    cases on with
    | none =>
      simp only [apply] at fine ⊢
      obtain ⟨j, added, joined⟩ := ons_addJoin fine
      obtain ⟨_, -, added⟩ := exists_of_bind_eq_ok added
      cases added
      exact joined
    | some input =>
      obtain ⟨_, condition, joined, conformed⟩ := on_of_join fine
      simp [joined, on?, conformed, Except.toOption]
  | joinRaw source =>
    simp only [apply] at fine ⊢
    obtain ⟨j, added, joined⟩ := ons_addJoin fine
    obtain ⟨_, -, added⟩ := exists_of_bind_eq_ok added
    cases added
    exact joined
  | _ =>
    have kept := congrArg Draft.joins (part_of_not_concerns fine .joins rfl)
    exact (congrArg (List.filterMap Join.on) kept).trans (List.append_nil _).symm

theorem isBlank_setAssignment {input : Except AssemblyError Fragment}
    (fine : (d.setAssignment input).error = none) (assigned : (d.setAssignment input).assignment = some f) :
    f.isBlank = false := by
  obtain ⟨-, g, accepted, changed⟩ := Draft.accept_eq_of_error_eq_none fine
  obtain ⟨-, visible⟩ := Draft.ok_of_payload accepted
  rw [Draft.setAssignment, changed] at assigned
  cases assigned
  exact visible

theorem isBlank_assignment_apply (fine : (step.apply d).error = none)
    (visible : ∀ f, d.assignment = some f → f.isBlank = false) (assigned : (step.apply d).assignment = some f) :
    f.isBlank = false := by
  cases step with
  | update changes =>
    simp only [apply] at fine assigned
    exact isBlank_setAssignment fine assigned
  | upsert rows changes =>
    simp only [apply] at fine assigned
    obtain ⟨fineBefore, g, -, changed⟩ := Draft.accept_eq_of_error_eq_none fine
    rw [Draft.setInsertion, changed] at assigned
    exact isBlank_setAssignment fineBefore assigned
  | _ =>
    have kept := congrArg Draft.assignment (part_of_not_concerns fine .assignment rfl)
    exact visible f (kept.symm.trans assigned)

end Step

namespace Draft.IsSupplied

variable {ons : List Fragment}

theorem apply (supplied : d.IsSupplied ons) (fine : (step.apply d).error = none) :
    (step.apply d).IsSupplied (ons ++ (step.on? d.dialect).toList) where
  ons := by rw [Step.ons_apply fine, supplied.ons]
  assignment _ := Step.isBlank_assignment_apply fine supplied.assignment

theorem applyAll {steps : List Step} (supplied : d.IsSupplied ons)
    (fine : (Step.applyAll steps d).error = none) :
    (Step.applyAll steps d).IsSupplied (ons ++ steps.filterMap (Step.on? d.dialect)) := by
  induction steps generalizing d ons with
  | nil =>
    simp only [Step.applyAll, List.filterMap_nil, List.append_nil]
    exact supplied
  | cons step steps inductionHypothesis =>
    simp only [Step.applyAll] at fine ⊢
    obtain ⟨later, -⟩ := Step.accepted_applyAll fine
    have rest := inductionHypothesis (supplied.apply later) fine
    rw [(step.records d).dialect] at rest
    rw [List.filterMap_cons]
    cases on : step.on? d.dialect <;> simpa [on] using rest

end Draft.IsSupplied

theorem Query.isSupplied_draft {query : Query} (fine : query.draft.error = none) :
    query.draft.IsSupplied query.ons := by
  obtain ⟨dialect, steps⟩ := query
  simp only [draft] at fine ⊢
  have start : (Draft.start dialect).IsSupplied [] := ⟨rfl, by simp [Draft.start]⟩
  exact start.applyAll fine

/-! ## Blank inputs -/

def Input.isIdle (dialect : Dialect) (clause : Clause) (input : Input) (options : FieldOptions) : Bool :=
  (input.conform dialect clause options).toOption.any Fragment.isBlank

/-- Whether a step adds a condition that is blank. -/
def Step.isIdle (dialect : Dialect) : Step → Bool
  | .filter input options => input.isIdle dialect .filter options
  | .having input => input.isIdle dialect .having {}
  | _ => false

def Query.withoutIdle (query : Query) : Query :=
  .mk query.dialect (query.steps.filter fun step => !step.isIdle query.dialect)

theorem Input.conform_of_isIdle {clause : Clause} {input : Input} {options : FieldOptions}
    (idle : input.isIdle dialect clause options = true) :
    ∃ f, input.conform dialect clause options = .ok f ∧ f.isBlank = true := by
  unfold isIdle at idle
  cases conformed : input.conform dialect clause options with
  | error e => simp [conformed, Except.toOption] at idle
  | ok f => exact ⟨f, rfl, by simpa [conformed, Except.toOption] using idle⟩

theorem Draft.addHaving_of_blank (blank : f.isBlank = true) : d.addHaving (.ok f) = d := by
  simp only [addHaving, accept, blank, if_true]
  split <;> rfl

theorem Step.apply_of_isIdle (idle : step.isIdle d.dialect = true) : step.apply d = d := by
  cases step with
  | filter input options =>
    obtain ⟨f, conformed, blank⟩ := Input.conform_of_isIdle idle
    simp only [apply, conformed]
    exact Draft.addCondition_of_blank blank
  | having input =>
    obtain ⟨f, conformed, blank⟩ := Input.conform_of_isIdle idle
    simp only [apply, conformed]
    exact Draft.addHaving_of_blank blank
  | _ => cases idle

theorem Step.applyAll_of_isIdle (steps : List Step) (d : Draft) :
    applyAll (steps.filter fun step => !step.isIdle d.dialect) d = applyAll steps d := by
  induction steps generalizing d with
  | nil => rfl
  | cons step steps inductionHypothesis =>
    by_cases idle : step.isIdle d.dialect = true
    · rw [List.filter_cons_of_neg (by simp [idle]), inductionHypothesis]
      simp only [applyAll, apply_of_isIdle idle]
    · have rest := inductionHypothesis (step.apply d)
      rw [(step.records d).dialect] at rest
      rw [List.filter_cons_of_pos (by simpa using idle)]
      simp only [applyAll, rest]

theorem Query.build_withoutIdle (query : Query) : query.withoutIdle.build = query.build := by
  obtain ⟨dialect, steps⟩ := query
  simp only [withoutIdle, build, Query.dialect, Query.steps]
  exact congrArg Draft.build (Step.applyAll_of_isIdle steps (Draft.start dialect))

/-- The inputs of a step that are payloads, with their clauses. -/
def Step.payloads : Step → List (Clause × Input)
  | .insert rows | .replace rows | .insertIgnore rows => [(.insert, rows)]
  | .upsert rows changes => [(.update, changes), (.insert, rows)]
  | .update changes => [(.update, changes)]
  | _ => []

/-- An input gives a payload that is not blank. -/
def Input.Supplies (dialect : Dialect) (clause : Clause) (input : Input) : Prop :=
  ∃ f, input.conform dialect clause {} = .ok f ∧ f.isBlank = false

theorem Input.supplies_of_payload {clause : Clause} {kind : Payload} {input : Input}
    (accepted : failureOf (Draft.payload kind (input.conform dialect clause {})) = none) :
    input.Supplies dialect clause := by
  cases given : Draft.payload kind (input.conform dialect clause {}) with
  | error e => simp [given, failureOf] at accepted
  | ok f => exact ⟨f, Draft.ok_of_payload given⟩

theorem Step.supplies_payloads (succeeds : step.failure? dialect = none) :
    ∀ payload ∈ step.payloads, payload.2.Supplies dialect payload.1 := by
  cases step with
  | insert rows | replace rows | insertIgnore rows | update changes =>
    rw [payloads, List.forall_mem_singleton]
    exact Input.supplies_of_payload succeeds
  | upsert rows changes =>
    obtain ⟨assigns, inserts⟩ := Option.or_eq_none_iff.mp succeeds
    rw [payloads, List.forall_mem_cons, List.forall_mem_singleton]
    exact ⟨Input.supplies_of_payload assigns, Input.supplies_of_payload inserts⟩
  | _ => exact nofun

/-! ## Operands of a statement -/

/-- What stands behind the keywords of a statement, by its outline: only ON can be without an operand,
and it is for each condition of a join that is blank.  No payload of its query is blank, and the
conditions that are blank make no difference to it. -/
structure Query.Supplies (query : Query) (s : Statement) (outline : Outline) : Prop where
  text : outline.text = s.sql
  visible : ∀ operand ∈ outline.operands, operand.1 ≠ .on → Text.isBlank operand.2 = false
  ons : (outline.operands.filter (·.1 = .on)).map Prod.snd =
    if s.kind = .insert then [] else query.ons.map Fragment.sql
  payloads : ∀ step ∈ query.steps, ∀ payload ∈ step.payloads,
    payload.2.Supplies query.dialect payload.1
  withoutIdle : query.withoutIdle.build = .ok s

namespace Draft

theorem isBlank_of_operands {ons : List Fragment} (supplied : d.IsSupplied ons)
    (having : ∀ f ∈ d.having, f.isBlank = false) (kind : StatementKind) :
    ∀ operand ∈ (d.outline kind).operands, operand.1 ≠ .on → Text.isBlank operand.2 = false := by
  have onOperands : ∀ operand ∈ d.onOperands, operand.1 ≠ .on → Text.isBlank operand.2 = false := by
    intro operand member other
    obtain ⟨f, -, rfl⟩ := List.mem_map.mp member
    exact absurd rfl other
  have filterOperands : ∀ operand ∈ d.filterOperands, operand.1 ≠ .on → Text.isBlank operand.2 = false := by
    intro operand member _
    unfold Draft.filterOperands at member
    split at member
    · cases member
    · rename_i visible
      rw [List.mem_singleton.mp member]
      exact Bool.not_eq_true _ ▸ visible
  have havingOperands : ∀ operand ∈ d.havingOperands, operand.1 ≠ .on → Text.isBlank operand.2 = false := by
    intro operand member _
    unfold Draft.havingOperands at member
    cases given : d.having with
    | nil => simp [given] at member
    | cons f rest =>
      rw [given, List.isEmpty_cons, if_neg Bool.false_ne_true] at member
      rw [List.mem_singleton.mp member]
      exact Fragment.isBlank_join List.mem_cons_self (having f (given ▸ List.mem_cons_self))
  have set {changes : Fragment} (assigned : d.assignment = some changes) (keyword : Keyword) :
      ∀ operand ∈ [(keyword, changes.sql)], operand.1 ≠ .on → Text.isBlank operand.2 = false := by
    rw [List.forall_mem_singleton]
    exact fun _ => supplied.assignment changes assigned
  rw [operands_outline]
  cases kind with
  | select =>
    simp only [List.forall_mem_append]
    exact ⟨⟨onOperands, filterOperands⟩, havingOperands⟩
  | insert =>
    simp only [upsertOperands]
    split
    · rename_i changes _ assigned
      exact set assigned _
    · exact nofun
  | update =>
    cases assigned : d.assignment with
    | none => exact nofun
    | some changes =>
      rw [Option.map_some, Option.getD_some, List.forall_mem_append, List.forall_mem_cons]
      exact ⟨onOperands, List.forall_mem_singleton.mp (set assigned .set), filterOperands⟩
  | delete =>
    simp only [List.forall_mem_append]
    exact ⟨onOperands, filterOperands⟩
  | raw => exact nofun

theorem joins_of_buildRaw {s : Statement} (built : d.buildRaw = .ok s) : d.joins = [] := by
  unfold buildRaw at built
  split at built
  · cases built
  · rename_i free
    simp only [needsTable, Bool.or_eq_true, not_or, Bool.not_eq_true', Bool.not_eq_false,
      List.isEmpty_iff] at free
    exact free.1.1.1.1.1

theorem ons_of_operands {s : Statement} (built : d.build = .ok s) :
    ((d.outline s.kind).operands.filter (·.1 = .on)).map Prod.snd =
      if s.kind = .insert then [] else (d.joins.filterMap Join.on).map Fragment.sql := by
  have onOperands : (d.onOperands.filter (·.1 = .on)).map Prod.snd =
      (d.joins.filterMap Join.on).map Fragment.sql := by
    simp [Draft.onOperands, List.filter_map, Function.comp_def]
  have filterOperands : d.filterOperands.filter (·.1 = .on) = [] := by
    unfold Draft.filterOperands
    split <;> simp
  have havingOperands : d.havingOperands.filter (·.1 = .on) = [] := by
    unfold Draft.havingOperands
    split <;> simp
  have assembled := assembly_of_build built
  rw [operands_outline]
  cases kind : s.kind with
  | select => simp [onOperands, filterOperands, havingOperands]
  | insert =>
    simp only [upsertOperands]
    split <;> simp
  | update =>
    simp only [kind] at assembled
    obtain ⟨changes, assigned, -⟩ := assembled
    simp [assigned, onOperands, filterOperands]
  | delete => simp [onOperands, filterOperands]
  | raw =>
    simp only [kind] at assembled
    simp [joins_of_buildRaw assembled]

end Draft

namespace Query

variable {query : Query} {s : Statement}

theorem supplies_of_build (built : query.build = .ok s) :
    query.Supplies s (query.draft.outline s.kind) := by
  have assembled : query.draft.build = .ok s := by rwa [← build_eq]
  have fine := Draft.error_eq_none_of_build assembled
  have supplied := isSupplied_draft fine
  obtain ⟨-, havings⟩ := collected fine
  have having : ∀ f ∈ query.draft.having, f.isBlank = false := by
    rw [havings]
    exact fun f => isBlank_havings
  refine ⟨Draft.text_outline assembled, Draft.isBlank_of_operands supplied having s.kind, ?_, ?_, ?_⟩
  · rw [Draft.ons_of_operands assembled, supplied.ons]
  · rw [error_draft, firstFailure?, List.findSome?_eq_none_iff] at fine
    exact fun step member => Step.supplies_payloads (fine step member)
  · rw [build_withoutIdle, built]

/-- **Only ON is left without an operand.**  Of the keywords in a statement that is built, and in the
statements of the queries inside its query, WHERE, HAVING, SET and the words of an upsert have an operand
that is not blank.  The operands of ON are the conditions of the joins, blank or not. -/
theorem supplies_operands (built : query.build = .ok s) :
    query.Supplies s (query.draft.outline s.kind) ∧
      ∀ inner, Relation.TransGen Takes query inner →
        ∃ s', inner.build = .ok s' ∧ inner.Supplies s' (inner.draft.outline s'.kind) := by
  refine ⟨supplies_of_build built, fun inner takes => ?_⟩
  cases given : inner.build with
  | error e =>
    have refused := build_of_error (error_of_takes takes given)
    rw [built] at refused
    cases refused
  | ok s' => exact ⟨s', rfl, supplies_of_build given⟩

/-- A select whose conditions are blank but for the statement of another query, over a join. -/
theorem supplies_operands_select :
    let orders : Query := .mk .sqlite [.setTable "orders", .filterEq "state" (.scalar (.text "open"))]
    let front : List Step :=
      [.setTable "users", .filter (.literal " \t") {}, .having (.mapping .empty),
        .join (.table "visits") .left (some (.condition "users.id" none (.scalar (.text "visits.user"))))]
    let query : Query := .mk .generic (front ++ [.filterSubquery orders])
    let on := "\"users\".\"id\" = \"visits\".\"user\""
    let inner := "SELECT *\nFROM \"orders\"\nWHERE \"state\" = ?"
    let s : Statement :=
      ⟨.select, "SELECT *\nFROM \"users\"\nLEFT JOIN \"visits\" ON " ++ on ++ "\nWHERE " ++ inner, [.text "open"]⟩
    query.build = .ok s ∧
      (query.draft.outline .select).operands = [(.on, on), (.filter, inner)] ∧
      query.Supplies s (query.draft.outline .select) ∧
      ∃ s', orders.build = .ok s' ∧ orders.Supplies s' (orders.draft.outline s'.kind) := by
  intro orders front query on inner s
  have built : query.build = .ok s := by decide +kernel
  have takes : query.Takes orders :=
    ⟨front, _, [], rfl, by decide +kernel, .filter {} (.subquery orders)⟩
  obtain ⟨supplies, nested⟩ := supplies_operands built
  exact ⟨built, by decide +kernel, supplies, nested orders (.single takes)⟩

/-- A join on an empty mapping, and one on blank text: both ON are written, with nothing behind them. -/
theorem supplies_operands_leaves_on :
    let query : Query := .mk .generic
      [.setTable "a", .join (.table "b") .inner (some (.mapping .empty)),
        .join (.table "c") .left (some (.literal " "))]
    query.build =
        .ok ⟨.select, .raw "SELECT *\nFROM \"a\"\nINNER JOIN \"b\" ON \nLEFT JOIN \"c\" ON  "⟩ ∧
      (query.draft.outline .select).operands = [(.on, ""), (.on, " ")] ∧
      Text.isBlank "" = true ∧ Text.isBlank " " = true := by
  decide +kernel

end Query

end SqlAssembly
