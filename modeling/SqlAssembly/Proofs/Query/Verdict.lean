import SqlAssembly.Proofs.Query.Operands

/-! # What a query comes to

Whether a query is built, as which kind of statement, and why it is refused otherwise depends on
nothing but the categories that its steps give something for.  A step that is not refused leaves
what it gives in the draft, and no later step takes it away, so the draft holds something for a
category exactly when a step of the query gives it.  Only a blank condition gives nothing, and a
group that is closed.

* `Step.gives`, `Query.gives` — what steps give something for.
* `Step.holds_apply`, `Query.holds_draft` — the draft holds what is given.
* `Draft.IsPaired` — with an upsert there is an update payload.
* `verdict`, `Query.build_verdict` — what is built, and what a query is refused for.
-/

namespace SqlAssembly

variable {d : Draft} {step : Step} {dialect : Dialect} {category : Category}

/-! ## What is given -/

/-- Whether a draft holds anything for a category. -/
def Draft.holds (d : Draft) : Category → Bool
  | .conditions => d.hasConditions
  | .having => !d.having.isEmpty
  | .selection => d.selection.isSome
  | .source => d.source.isSome
  | .joins => !d.joins.isEmpty
  | .order => !d.order.isEmpty
  | .groups => !d.groups.isEmpty
  | .limit => d.limit.isSome
  | .offset => d.offset.isSome
  | .lock => d.lock.isSome
  | .name => d.tableName.isSome
  | .risky => d.risky
  | .deletion => d.deletes
  | .insertion => d.insertion.isSome
  | .assignment => d.assignment.isSome

/-- Whether a step gives something for a category.  A condition that is blank gives nothing. -/
def Step.gives (dialect : Dialect) (category : Category) : Step → Bool
  | .filter input options =>
    category == .conditions && (input.condition? dialect .filter options).isSome
  | .having input => category == .having && (input.condition? dialect .having {}).isSome
  | .refuse _ => false
  | .regroup _ => false
  | step => step.concerns category

def Query.gives (query : Query) (category : Category) : Bool :=
  query.steps.any (Step.gives query.dialect category)

theorem Draft.holds_part (d : Draft) (category : Category) :
    (d.part category).holds category = d.holds category := by
  cases category <;> rfl

namespace Step

theorem concerns_of_gives (given : step.gives dialect category = true) :
    step.concerns category = true := by
  cases step with
  | filter input options | having input =>
    obtain ⟨same, -⟩ := Bool.and_eq_true_iff.mp given
    rw [eq_of_beq same]
    rfl
  | refuse | regroup => cases given
  | _ => exact given

/-! ## The draft holds what is given -/

theorem hasConditions_call (d : Draft) (call : ConditionCall) :
    (call.apply d).hasConditions = (d.hasConditions || call.condition?.isSome) := by
  cases call with
  | condition f => simp [ConditionCall.apply, ConditionCall.condition?, Draft.hasConditions]
  | regroup connective =>
    simp only [ConditionCall.apply, ConditionCall.condition?, Draft.hasConditions, Draft.closedGroups]
    cases d.conditions with
    | nil => simp
    | cons f rest => cases d.grouping <;> simp

theorem holds_conditions_apply (fine : (step.apply d).error = none) :
    (step.apply d).holds .conditions = (d.holds .conditions || step.gives d.dialect .conditions) := by
  have collected := congrArg Draft.hasConditions (accepted fine).collected
  -- which draft the conditions are in makes no difference to whether there are any
  have same (d : Draft) : d.collected.hasConditions = d.hasConditions := rfl
  simp only [Draft.holds]
  rw [← same (step.apply d), collected, ← same d]
  cases step with
  | filter input options =>
    simp only [call?, gives]
    cases input.condition? d.dialect .filter options with
    | none => simp
    | some f => exact hasConditions_call d.collected (.condition f)
  | regroup connective => exact hasConditions_call d.collected (.regroup connective)
  | _ => exact (Bool.or_false _).symm

theorem holds_having_apply (fine : (step.apply d).error = none) :
    (step.apply d).holds .having = (d.holds .having || step.gives d.dialect .having) := by
  simp only [Draft.holds, (accepted fine).having]
  cases step with
  | having input =>
    simp only [having?, gives]
    cases input.condition? d.dialect .having {} <;> simp
  | _ => simp [having?, gives, concerns, categories]

theorem holds_accept {α : Type} {result : Except AssemblyError α} {change : α → Draft}
    (fine : (d.accept result change).error = none)
    (held : ∀ a, (change a).holds category = true) :
    (d.accept result change).holds category = true := by
  obtain ⟨-, a, -, changed⟩ := Draft.accept_eq_of_error_eq_none fine
  rw [changed]
  exact held a

theorem holds_addJoin {join : Except AssemblyError Join} (fine : (d.addJoin join).error = none) :
    (d.addJoin join).holds .joins = true :=
  holds_accept fine fun j => by simp [Draft.holds]

/-- A step that is not refused leaves something for each of its categories, conditions apart. -/
theorem holds_of_concerns (fine : (step.apply d).error = none)
    (concerned : step.concerns category = true) (other : category ≠ .conditions)
    (otherToo : category ≠ .having) : (step.apply d).holds category = true := by
  have mem := List.contains_iff_mem.mp concerned
  cases step with
  | filter | refuse | regroup => exact absurd (List.mem_singleton.mp mem) other
  | having input => exact absurd (List.mem_singleton.mp mem) otherToo
  | addTable token =>
    rw [List.mem_singleton.mp mem]
    simp only [apply, Draft.addTable, Draft.setTable]
    split <;> rfl
  | join target kind on =>
    rw [List.mem_singleton.mp mem]
    cases on <;>
    · simp only [apply] at fine ⊢
      exact holds_addJoin fine
  | joinRaw source =>
    rw [List.mem_singleton.mp mem]
    simp only [apply] at fine ⊢
    exact holds_addJoin fine
  | setSubquery | lock | insert | replace | insertIgnore | update =>
    rw [List.mem_singleton.mp mem]
    simp only [apply] at fine ⊢
    exact holds_accept fine fun _ => rfl
  | upsert rows changes =>
    simp only [apply] at fine ⊢
    obtain ⟨assigned, -⟩ := Draft.accept_eq_of_error_eq_none fine
    rcases List.mem_cons.mp mem with rfl | second
    · exact holds_accept fine fun _ => rfl
    · rw [List.mem_singleton.mp second]
      -- the rows are set behind the changes and leave them as they are
      have held : (d.setAssignment (changes.conform d.dialect .update {})).holds .assignment = true :=
        holds_accept assigned fun _ => rfl
      exact holds_accept fine fun _ => held
  | select | setTable | named | order | group | limit | offset | risky | delete =>
    rw [List.mem_singleton.mp mem]
    simp [apply, Draft.select, Draft.setTable, Draft.holds]

/-- What one step leaves in a draft for a category. -/
theorem holds_apply (fine : (step.apply d).error = none) (category : Category) :
    (step.apply d).holds category = (d.holds category || step.gives d.dialect category) := by
  by_cases conditions : category = .conditions
  · rw [conditions, holds_conditions_apply fine]
  by_cases having : category = .having
  · rw [having, holds_having_apply fine]
  cases concerned : step.concerns category with
  | false =>
    have nothing : step.gives d.dialect category = false := by
      rw [← Bool.not_eq_true]
      intro given
      rw [concerns_of_gives given] at concerned
      cases concerned
    rw [← Draft.holds_part (step.apply d), part_of_not_concerns fine category concerned,
      Draft.holds_part, nothing, Bool.or_false]
  | true =>
    have given : step.gives d.dialect category = true := by
      cases step with
      | filter | refuse | regroup =>
        exact absurd (List.mem_singleton.mp (List.contains_iff_mem.mp concerned)) conditions
      | having =>
        exact absurd (List.mem_singleton.mp (List.contains_iff_mem.mp concerned)) having
      | _ => exact concerned
    rw [holds_of_concerns fine concerned conditions having, given, Bool.or_true]

theorem holds_applyAll {steps : List Step} (fine : (applyAll steps d).error = none)
    (category : Category) :
    (applyAll steps d).holds category = (d.holds category || steps.any (gives d.dialect category)) := by
  induction steps generalizing d with
  | nil => simp only [applyAll, List.any_nil, Bool.or_false]
  | cons step steps inductionHypothesis =>
    simp only [applyAll] at fine ⊢
    obtain ⟨later, -⟩ := accepted_applyAll fine
    rw [inductionHypothesis fine, holds_apply later, (step.records d).dialect, List.any_cons,
      Bool.or_assoc]

end Step

theorem Query.holds_draft {query : Query} (fine : query.draft.error = none) (category : Category) :
    query.draft.holds category = query.gives category := by
  obtain ⟨dialect, steps⟩ := query
  have nothing : (Draft.start dialect).holds category = false := by cases category <;> rfl
  simp only [draft] at fine ⊢
  rw [Step.holds_applyAll fine, nothing, Bool.false_or]
  rfl

/-! ## Upserts -/

/-- With an upsert there is an update payload. -/
def Draft.IsPaired (d : Draft) : Prop :=
  ∀ rows, d.insertion = some (.upsert, rows) → d.assignment.isSome = true

theorem Draft.IsPaired.apply (paired : d.IsPaired) (fine : (step.apply d).error = none) :
    (step.apply d).IsPaired := by
  intro rows upserts
  cases assigns : step.concerns .assignment with
  | true =>
    have held : (step.apply d).holds .assignment = true :=
      Step.holds_of_concerns fine assigns nofun nofun
    exact held
  | false =>
    have assigned := congrArg Draft.assignment (Step.part_of_not_concerns fine .assignment assigns)
    rw [show (step.apply d).assignment = d.assignment from assigned]
    cases step with
    | insert rows | replace rows | insertIgnore rows =>
      -- the insert that is left is no upsert, whatever the one before was
      simp only [Step.apply, setInsertion] at fine upserts
      obtain ⟨-, f, -, changed⟩ := accept_eq_of_error_eq_none fine
      rw [changed] at upserts
      cases upserts
    | upsert | update => cases assigns
    | _ =>
      have kept := congrArg Draft.insertion (Step.part_of_not_concerns fine .insertion rfl)
      exact paired rows (kept.symm.trans upserts)

theorem Draft.IsPaired.applyAll {steps : List Step} (paired : d.IsPaired)
    (fine : (Step.applyAll steps d).error = none) : (Step.applyAll steps d).IsPaired := by
  induction steps generalizing d with
  | nil => simpa only [Step.applyAll] using paired
  | cons step steps inductionHypothesis =>
    simp only [Step.applyAll] at fine ⊢
    obtain ⟨later, -⟩ := Step.accepted_applyAll fine
    exact inductionHypothesis (paired.apply later) fine

theorem Query.isPaired_draft {query : Query} (fine : query.draft.error = none) :
    query.draft.IsPaired := by
  obtain ⟨dialect, steps⟩ := query
  simp only [draft] at fine ⊢
  have start : (Draft.start dialect).IsPaired := by
    intro rows upserts
    cases upserts
  exact start.applyAll fine

/-! ## Verdicts -/

/-- What an update or a delete comes to: it needs a condition or permission to do without, and a
table. -/
def changeVerdict (given : Category → Bool) (kind : StatementKind) (unguarded : AssemblyError) :
    Except AssemblyError StatementKind :=
  if !given .conditions && !given .risky then .error unguarded
  else if given .source then .ok kind
  else .error .noTable

/-- The kind of statement that is built, or what is refused, by the categories that something is given
for.  A delete comes before an insert, an insert before an update, and an update before a select. -/
def verdict (given : Category → Bool) : Except AssemblyError StatementKind :=
  if given .deletion then changeVerdict given .delete .unguardedDelete
  else if given .insertion then if given .source then .ok .insert else .error .noTable
  else if given .assignment then changeVerdict given .update .unguardedUpdate
  else if given .source then .ok .select
  else if [.joins, .order, .groups, .having, .limit, .offset].any given then .error .noTable
  else if given .conditions then .ok .raw
  else .error .emptyStatement

theorem verdict_ne_noPayload (given : Category → Bool) (payload : Payload) :
    verdict given ≠ .error (.noPayload payload) := by
  unfold verdict changeVerdict
  repeat' split
  all_goals exact nofun

namespace Draft

theorem sourceFragment_cases (d : Draft) :
    (d.holds .source = true ∧ ∃ f, d.sourceFragment = .ok f) ∨
      (d.holds .source = false ∧ d.sourceFragment = .error .noTable) := by
  simp only [sourceFragment, holds]
  cases d.source with
  | none => exact .inr ⟨rfl, rfl⟩
  | some source => cases source <;> exact .inl ⟨rfl, _, rfl⟩

/-- A statement over the source and the joins of a draft is built exactly when there is a source. -/
theorem kind_of_joined (kind : StatementKind) (statement : Fragment → Fragment) :
    (do return (⟨kind, statement (← d.sourceWithJoins)⟩ : Statement)).map Statement.kind =
      if d.holds .source then .ok kind else .error .noTable := by
  rw [sourceWithJoins]
  obtain ⟨held, f, found⟩ | ⟨held, refused⟩ := d.sourceFragment_cases
  · rw [held, found]
    rfl
  · rw [held, refused]
    rfl

theorem kind_of_guarded {kind : StatementKind} {unguarded : AssemblyError}
    (statement : Fragment → Fragment) :
    (if d.isGuarded then (do return (⟨kind, statement (← d.sourceWithJoins)⟩ : Statement))
      else .error unguarded).map Statement.kind = changeVerdict d.holds kind unguarded := by
  have guarded : d.isGuarded = !(!d.holds .conditions && !d.holds .risky) := by
    simp [isGuarded, holds, Bool.or_comm]
  rw [guarded, changeVerdict]
  cases !d.holds .conditions && !d.holds .risky with
  | true => rfl
  | false => exact kind_of_joined kind statement

theorem kind_buildInsert (paired : d.IsPaired) {mode : InsertMode} {rows : Fragment}
    (pending : d.insertion = some (mode, rows)) :
    (d.buildInsert mode rows).map Statement.kind =
      if d.holds .source then .ok .insert else .error .noTable := by
  rw [buildInsert]
  obtain ⟨held, f, found⟩ | ⟨held, refused⟩ := d.sourceFragment_cases
  · rw [held, found]
    by_cases upserts : mode = .upsert
    · subst upserts
      obtain ⟨changes, assigned⟩ := Option.isSome_iff_exists.mp (paired rows pending)
      simp only [assigned]
      rfl
    · simp only [upserts]
      rfl
  · rw [held, refused]
    rfl

theorem kind_buildRaw (visible : d.IsVisible) :
    d.buildRaw.map Statement.kind =
      if [.joins, .order, .groups, .having, .limit, .offset].any d.holds then .error .noTable
      else if d.holds .conditions then .ok .raw else .error .emptyStatement := by
  have needs : d.needsTable = [.joins, .order, .groups, .having, .limit, .offset].any d.holds := by
    simp [needsTable, holds, Bool.or_assoc]
  have blank : d.consolidated.isBlank = !d.holds .conditions := by
    rw [holds, visible.hasConditions_iff, Bool.not_not]
  rw [buildRaw, needs, blank]
  split
  · rfl
  · cases d.holds .conditions <;> rfl

theorem fragment_of_buildRaw {s : Statement} (built : d.buildRaw = .ok s) :
    s.fragment = d.consolidated := by
  unfold buildRaw at built
  split at built
  · cases built
  · split at built <;> cases built
    rfl

/-- What a draft without an error is built as, or refused for. -/
theorem kind_build (fine : d.error = none) (visible : d.IsVisible) (paired : d.IsPaired) :
    d.build.map Statement.kind = verdict d.holds := by
  rw [build, fine, verdict]
  simp only
  have deletion : d.holds .deletion = d.deletes := rfl
  have insertion : d.holds .insertion = d.insertion.isSome := rfl
  have assignment : d.holds .assignment = d.assignment.isSome := rfl
  have source : d.holds .source = d.targetsTable := rfl
  rw [deletion]
  split
  · exact kind_of_guarded _
  · rw [insertion]
    cases pending : d.insertion with
    | some payload =>
      obtain ⟨mode, rows⟩ := payload
      exact kind_buildInsert paired pending
    | none =>
      rw [assignment]
      cases d.assignment with
      | some changes => exact kind_of_guarded _
      | none =>
        rw [source]
        cases targets : d.targetsTable with
        | true =>
          have selected : d.buildSelect.map Statement.kind =
              if d.targetsTable then .ok .select else .error .noTable := kind_of_joined .select _
          rwa [targets] at selected
        | false => exact kind_buildRaw visible

end Draft

/-- **What is given decides what is built.**  A query of which no step fails is built or refused as the
categories that its steps give something for have it, so never for a payload that is missing: with an
upsert there is an update payload.  SQL text of the caller is built as all conditions together. -/
theorem Query.build_verdict {query : Query} (fine : query.draft.error = none) :
    query.build.map Statement.kind = verdict query.gives ∧
      (∀ s, query.build = .ok s → s.kind = .raw → s.fragment = query.draft.consolidated) ∧
      (∀ payload, query.build ≠ .error (.noPayload payload)) ∧
      ∀ rows, query.draft.insertion = some (.upsert, rows) → query.gives .assignment = true := by
  have visible : query.draft.IsVisible := by
    obtain ⟨dialect, steps⟩ := query
    simp only [draft]
    exact (Draft.IsVisible.start dialect).applyAll steps
  have paired := isPaired_draft fine
  have given : query.draft.holds = query.gives := funext (holds_draft fine)
  have kinds : query.build.map Statement.kind = verdict query.gives := by
    rw [build_eq, ← given]
    exact Draft.kind_build fine visible paired
  refine ⟨kinds, fun s built raw => ?_, fun payload refused => ?_, fun rows upserts => ?_⟩
  · rw [build_eq] at built
    have assembled := Draft.assembly_of_build built
    rw [raw] at assembled
    exact Draft.fragment_of_buildRaw assembled
  · rw [refused] at kinds
    exact verdict_ne_noPayload query.gives payload kinds.symm
  · rw [← given]
    exact paired rows upserts

/-- Conditions without a table, beside a blank one on groups of rows that gives nothing, and the same with
an upsert and a limit behind them. -/
theorem Query.build_verdict_conditions :
    let row (n : Int) : Input := .mapping ⟨[("id", .scalar (.int n))]⟩
    let conditions : List Step :=
      [.having (.literal " "), .filter (.literal "a = 1") {}, .regroup .or, .filter (.id 7) {}]
    let query : Query := .mk .mysql conditions
    let upsert : Query := .mk .mysql (conditions ++ [.upsert (row 1) (row 2), .limit 3])
    query.build = .ok (.raw ⟨"( a = 1 )\n\tOR ( \x60id\x60 = ? )", [.int 7]⟩) ∧
      query.build.map Statement.kind = verdict query.gives ∧
      upsert.build = .error .noTable ∧ upsert.gives .assignment = true := by
  intro row conditions query upsert
  have fine : query.draft.error = none := by decide +kernel
  have fineToo : upsert.draft.error = none := by decide +kernel
  obtain ⟨kinds, -, -, -⟩ := Query.build_verdict fine
  obtain ⟨-, -, -, paired⟩ := Query.build_verdict fineToo
  have pending : upsert.draft.insertion = some (.upsert, ⟨"(\x60id\x60)\nVALUES (?)", [.int 1]⟩) := by
    decide +kernel
  exact ⟨by decide +kernel, kinds, by decide +kernel, paired _ pending⟩

end SqlAssembly
