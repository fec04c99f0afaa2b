import SqlAssembly.Proofs.Query.Failure
import SqlAssembly.Proofs.Success

/-! # The order of steps

A step belongs to a category, or to two where it changes two payloads at once.  It reads and
writes the part of the draft that is its category's and nothing else, so the part of a category
only follows from the steps of that category, in their order.  How the steps of different
categories stand between each other makes no difference.

* `Category`, `Step.concerns` — the categories, and the steps of each.
* `Draft.part` — what a draft holds for a category.
* `Step.part_apply` — what one step does to a part.
* `Step.part_applyAll` — what the steps of a query make of a part.
* `Query.build_rearranged` — queries with the same steps in each category are built alike.
-/

namespace SqlAssembly

/-! ## Categories -/

/-- The clauses and settings of a statement that steps have to do with. -/
inductive Category where
  | conditions
  | having
  | selection
  | source
  | joins
  | order
  | groups
  | limit
  | offset
  | lock
  | name
  | risky
  | deletion
  | insertion
  | assignment
  deriving DecidableEq, Repr

/-- The categories of a step.  An insert that changes conflicting rows holds both payloads. -/
def Step.categories : Step → List Category
  | .filter _ _ => [.conditions]
  | .refuse _ => [.conditions]
  | .regroup _ => [.conditions]
  | .having _ => [.having]
  | .select _ => [.selection]
  | .setTable _ => [.source]
  | .addTable _ => [.source]
  | .setSubquery _ => [.source]
  | .named _ => [.name]
  | .join _ _ _ => [.joins]
  | .joinRaw _ => [.joins]
  | .order _ => [.order]
  | .group _ => [.groups]
  | .limit _ => [.limit]
  | .offset _ => [.offset]
  | .lock _ => [.lock]
  | .risky => [.risky]
  | .insert _ => [.insertion]
  | .replace _ => [.insertion]
  | .insertIgnore _ => [.insertion]
  | .upsert _ _ => [.insertion, .assignment]
  | .update _ => [.assignment]
  | .delete => [.deletion]

def Step.concerns (category : Category) (step : Step) : Bool := step.categories.contains category

theorem Step.exists_concerns (step : Step) : ∃ category, step.concerns category = true := by
  cases step <;> exact ⟨_, List.contains_iff_mem.mpr List.mem_cons_self⟩

/-! ## Parts of a draft -/

namespace Draft

/-- The draft with nothing but what it holds for a category. -/
def part (d : Draft) : Category → Draft
  | .conditions => { start d.dialect with conditions := d.conditions, grouping := d.grouping }
  | .having => { start d.dialect with having := d.having }
  | .selection => { start d.dialect with selection := d.selection }
  | .source => { start d.dialect with source := d.source }
  | .joins => { start d.dialect with joins := d.joins }
  | .order => { start d.dialect with order := d.order }
  | .groups => { start d.dialect with groups := d.groups }
  | .limit => { start d.dialect with limit := d.limit }
  | .offset => { start d.dialect with offset := d.offset }
  | .lock => { start d.dialect with lock := d.lock }
  | .name => { start d.dialect with tableName := d.tableName }
  | .risky => { start d.dialect with risky := d.risky }
  | .deletion => { start d.dialect with deletes := d.deletes }
  | .insertion => { start d.dialect with insertion := d.insertion }
  | .assignment => { start d.dialect with assignment := d.assignment }

@[simp] theorem dialect_part (d : Draft) (category : Category) : (d.part category).dialect = d.dialect := by
  cases category <;> rfl

@[simp] theorem error_part (d : Draft) (category : Category) : (d.part category).error = none := by
  cases category <;> rfl

/-- Nothing in a draft belongs to no category, its error apart. -/
theorem eq_of_part_eq {d d' : Draft} (error : d.error = d'.error)
    (same : ∀ category, d.part category = d'.part category) : d = d' := by
  have field {α : Type} (category : Category) (f : Draft → α) :
      f (d.part category) = f (d'.part category) := congrArg f (same category)
  cases d
  cases d'
  congr
  · exact field .limit dialect
  · exact field .conditions conditions
  · exact field .conditions grouping
  · exact field .having having
  · exact field .selection selection
  · exact field .source source
  · exact field .joins joins
  · exact field .order order
  · exact field .groups groups
  · exact field .limit limit
  · exact field .offset offset
  · exact field .insertion insertion
  · exact field .assignment assignment
  · exact field .deletion deletes
  · exact field .risky risky
  · exact field .name tableName
  · exact field .lock lock

theorem part_addTable (d : Draft) (token : String) (category : Category) :
    (d.addTable token).part category =
      if category = .source then ((d.part .source).addTable token).part .source
      else d.part category := by
  have tables : (d.part .source).source = d.source := rfl
  unfold addTable
  rw [tables]
  -- the table starts a list or joins the one before it, which only the source tells
  split <;> cases category <;> rfl

/-- A change that has a result is the same change on the draft and on its part. -/
theorem part_accept {α : Type} {d : Draft} {result : Except AssemblyError α}
    {change change' : α → Draft} {category : Category} {concerned : Bool} (fine : d.error = none)
    (given : failureOf result = none)
    (same : ∀ a, (change a).part category =
      if concerned then (change' a).part category else d.part category) :
    (d.accept result change).part category =
      if concerned then ((d.part category).accept result change').part category
      else d.part category := by
  cases result with
  | error e => cases given
  | ok a => simpa only [accept, fine, error_part] using same a

end Draft

/-! ## What steps do to a part -/

namespace Step

theorem part_apply {step : Step} {d : Draft} (fine : d.error = none)
    (succeeds : step.failure? d.dialect = none) (category : Category) :
    (step.apply d).part category =
      if step.concerns category then (step.apply (d.part category)).part category
      else d.part category := by
  cases step with
  | filter input options | having input =>
    simp only [Step.apply, Draft.addCondition, Draft.addHaving, Draft.dialect_part]
    refine Draft.part_accept fine succeeds fun f => ?_
    cases f.isBlank <;> cases category <;> rfl
  | refuse error => cases succeeds
  | regroup connective =>
    simp only [Step.apply, Draft.regroup]
    refine Draft.part_accept fine rfl fun _ => ?_
    cases category <;> rfl
  | addTable token =>
    rw [Step.apply, Draft.part_addTable]
    cases category <;> rfl
  | setSubquery query =>
    simp only [Step.apply, Draft.setSubquery]
    rw [failure?, ← failureOf_bind_pure query.build Statement.fragment] at succeeds
    refine Draft.part_accept fine succeeds fun f => ?_
    cases category <;> rfl
  | join target kind on =>
    rw [← failure?_join d.dialect target kind on] at succeeds
    cases on <;>
    · simp only [Step.apply, Draft.addJoin, Draft.dialect_part]
      refine Draft.part_accept fine succeeds fun j => ?_
      cases category <;> rfl
  | joinRaw source =>
    simp only [Step.apply, Draft.addJoin]
    rw [failure?, ← failureOf_bind_pure (Fragment.conform source .newline) (Join.mk none · none)] at succeeds
    refine Draft.part_accept fine succeeds fun f => ?_
    cases category <;> rfl
  | lock mode =>
    simp only [Step.apply, Draft.setLock, Draft.dialect_part]
    refine Draft.part_accept fine ?_ fun _ => by cases category <;> rfl
    rw [failure?] at succeeds
    split at succeeds
    · rename_i supported
      rw [if_pos supported]
      rfl
    · cases succeeds
  | insert rows | replace rows | insertIgnore rows =>
    simp only [Step.apply, Draft.setInsertion, Draft.dialect_part]
    refine Draft.part_accept fine succeeds fun f => ?_
    cases category <;> rfl
  | update changes =>
    simp only [Step.apply, Draft.setAssignment, Draft.dialect_part]
    refine Draft.part_accept fine succeeds fun f => ?_
    cases category <;> rfl
  | upsert rows changes =>
    obtain ⟨assigns, inserts⟩ := Option.or_eq_none_iff.mp succeeds
    simp only [Step.apply, Draft.setAssignment, Draft.setInsertion, Draft.dialect_part]
    generalize Draft.payload .update (changes.conform d.dialect .update {}) = assignment at assigns ⊢
    generalize Draft.payload .insert (rows.conform d.dialect .insert {}) = insertion at inserts ⊢
    cases assignment with
    | error e => cases assigns
    | ok f =>
      cases insertion with
      | error e => cases inserts
      | ok g =>
        simp only [Draft.accept, fine, Draft.error_part]
        cases category <;> rfl
  | select | setTable | named | order | group | limit | offset | risky | delete =>
    simp only [Step.apply, Draft.select, Draft.setTable]
    cases category <;> rfl

/-- What the steps of a list leave in a part is what those of its category leave there, one after
another. -/
theorem part_applyAll {steps : List Step} {d : Draft} (fine : (applyAll steps d).error = none)
    (category : Category) :
    (applyAll steps d).part category =
      (steps.filter (concerns category)).foldl (fun p step => (step.apply p).part category)
        (d.part category) := by
  induction steps generalizing d with
  | nil => simp only [applyAll, List.filter_nil, List.foldl_nil]
  | cons step steps inductionHypothesis =>
    simp only [applyAll] at fine ⊢
    -- the error of a draft stays, so neither this step nor one before it has left any
    obtain ⟨later, -⟩ :=
      Option.or_eq_none_iff.mp ((records_applyAll steps (step.apply d)).error.symm.trans fine)
    obtain ⟨start, succeeds⟩ := Option.or_eq_none_iff.mp ((step.records d).error.symm.trans later)
    rw [inductionHypothesis fine, part_apply start succeeds, List.filter_cons]
    split <;> rfl

end Step

/-! ## Queries with the same steps in each category -/

/-- Another query in the same dialect has the same steps in each category, in the same order. -/
structure Query.Rearranged (query other : Query) : Prop where
  dialect : other.dialect = query.dialect
  steps : ∀ category,
    other.steps.filter (Step.concerns category) = query.steps.filter (Step.concerns category)

namespace Query

variable {query other : Query}

theorem Rearranged.mem (rearranged : query.Rearranged other) {step : Step}
    (member : step ∈ other.steps) : step ∈ query.steps := by
  obtain ⟨category, concerned⟩ := step.exists_concerns
  have own : step ∈ query.steps.filter (Step.concerns category) :=
    rearranged.steps category ▸ List.mem_filter.mpr ⟨member, concerned⟩
  exact (List.mem_filter.mp own).1

/-- Each step fails or succeeds on its own, so none fails for having another place. -/
theorem Rearranged.error (rearranged : query.Rearranged other) (fine : query.draft.error = none) :
    other.draft.error = none := by
  rw [error_draft, firstFailure?, List.findSome?_eq_none_iff] at fine ⊢
  intro step member
  rw [rearranged.dialect]
  exact fine step (rearranged.mem member)

theorem part_draft (fine : query.draft.error = none) (category : Category) :
    query.draft.part category =
      (query.steps.filter (Step.concerns category)).foldl (fun p step => (step.apply p).part category)
        (Draft.start query.dialect) := by
  obtain ⟨dialect, steps⟩ := query
  simp only [draft] at fine ⊢
  have empty : (Draft.start dialect).part category = Draft.start dialect := by cases category <;> rfl
  rw [Step.part_applyAll fine, empty]
  rfl

theorem Rearranged.draft (rearranged : query.Rearranged other) (fine : query.draft.error = none) :
    other.draft = query.draft := by
  have fineToo := rearranged.error fine
  refine Draft.eq_of_part_eq (fineToo.trans fine.symm) fun category => ?_
  rw [part_draft fine, part_draft fineToo, rearranged.steps, rearranged.dialect]

end Query

/-- **Steps of different categories commute.**  A query of which no step fails, and another one that
has the same steps in each category in the same order, are built as the same statement, or are
refused for the same reason. -/
theorem Query.build_rearranged {query other : Query} (fine : query.draft.error = none)
    (rearranged : query.Rearranged other) : other.build = query.build := by
  rw [build_eq, build_eq, rearranged.draft fine]

/-- Conditions stay around their connective, the upsert stays behind the insert it replaces and
before the update of its payload; everything else moves. -/
theorem Query.build_rearranged_upsert :
    let orders : Query := .mk .sqlite [.setTable "orders", .filterEq "state" (.scalar (.text "open"))]
    let row (n : Int) : Input := .mapping ⟨[("id", .scalar (.int n))]⟩
    let query : Query := .mk .mysql
      [.setTable "users", .filterEq "id" (.scalar (.int 1)), .regroup .or, .limit 3, .filterSubquery orders,
        .order "-age", .insert (row 1), .upsert (row 2) (row 3), .update (row 4), .lock .share]
    let other : Query := .mk .mysql
      [.lock .share, .insert (row 1), .filterEq "id" (.scalar (.int 1)), .upsert (row 2) (row 3), .regroup .or,
        .order "-age", .update (row 4), .limit 3, .setTable "users", .filterSubquery orders]
    query.draft.error = none ∧ other.build = query.build ∧
      query.build = .ok ⟨.insert, "INSERT INTO \x60users\x60 (\x60id\x60)\nVALUES (?)\n" ++
        "ON DUPLICATE KEY UPDATE \x60id\x60 = ?", [.int 2, .int 4]⟩ := by
  intro orders row query other
  have fine : query.draft.error = none := by decide +kernel
  have rearranged : query.Rearranged other := by
    refine ⟨rfl, fun category => ?_⟩
    cases category <;> rfl
  exact ⟨fine, Query.build_rearranged fine rearranged, by decide +kernel⟩

end SqlAssembly
