import SqlAssembly.Proofs.Clause.Columns
import SqlAssembly.Proofs.Query.Calls
import SqlAssembly.Proofs.Query.Entries

/-! # Null in the clauses

Null is never bound.  An assignment and a slot write it as the word NULL before they ask whether the
value is an identifier, while a condition asks for that first: it tests for null where values are
bound, and where they are identifiers it compares the column with a quoted name.  The condition of a
join compares identifiers, so a join never tests for null.

* `Comparison.nullCondition` — the condition on null.
* `Entry.WritesNull`, `Entry.NamesNull`, `WritesNullSlot` — null as the value of a field.
* `Step.on_of_join` — the condition of a join.
* `Input.conform_null` — null in all the clauses.
-/

namespace SqlAssembly

variable {dialect : Dialect} {clause : Clause} {entry : Entry} {f : Fragment}

/-! ## Fields -/

namespace Comparison

variable {c : Comparison}

/-- The column compared with the identifier that null is taken for. -/
def nullIdentifier (c : Comparison) : Fragment :=
  .raw (c.column ++ " " ++ c.comparator ++ " " ++ c.dialect.quoteIdentifier "NULL")

/-- The condition on null where it is not SQL text. -/
def nullCondition (c : Comparison) : Fragment :=
  if c.options.identity then c.nullIdentifier else c.nullTest

theorem test_null (bare : c.options.raw = false) : c.test .null = .ok c.nullCondition := by
  have binds : c.binds = !c.options.identity := by simp [Comparison.binds, bare]
  simp only [Value.null, test, binds, nullCondition]
  cases identity : c.options.identity with
  | true => simp [scalar, binds, identity, written, bare, nullIdentifier, Scalar.plain, Scalar.literal]
  | false => rfl

theorem params_of_test_null (tested : c.test .null = .ok f) : f.params = [] := by
  simp only [Value.null, test] at tested
  cases tested
  split
  · rfl
  · rename_i unbound
    simp only [scalar, if_neg unbound]
    rfl

theorem assignment_null (bare : c.options.raw = false) :
    c.assignment .null = .ok (.raw (c.column ++ " = NULL")) := by
  simp [Value.null, assignment, bare]

theorem params_of_assignment_null (assigned : c.assignment .null = .ok f) : f.params = [] := by
  simp only [Value.null, assignment] at assigned
  cases assigned
  split
  · rename_i raw
    simp [scalar, binds, raw, Fragment.raw]
  · rfl

end Comparison

namespace Entry

/-- What null gives as the value of a field that reads as `indicated`: no parameter, and where it is
not SQL text a fragment that follows from the comparison. -/
structure GivesNull (dialect : Dialect) (written : Comparison → Fragment) (entry : Entry) (f : Fragment)
    (indicated : IndicatedField) : Prop where
  read : IndicatedField.read entry.field = .ok indicated
  params : f.params = []
  text : (entry.comparison dialect indicated).options.raw = false →
    f = written (entry.comparison dialect indicated)

/-- Null as the value of a field is written in a certain way unless it is SQL text. -/
def WritesNull (dialect : Dialect) (written : Comparison → Fragment) (entry : Entry) (f : Fragment) : Prop :=
  entry.value = .null → ∃ indicated, entry.GivesNull dialect written f indicated

/-- Null as the value of a field is taken for an identifier. -/
def NamesNull (dialect : Dialect) (entry : Entry) (f : Fragment) : Prop :=
  entry.value = .null → ∃ indicated, IndicatedField.read entry.field = .ok indicated ∧
    f = (entry.comparison dialect indicated).qualify (entry.comparison dialect indicated).nullIdentifier

theorem writesNull_condition (conditions : clause.holdsConditions = true)
    (conformed : entry.fragment dialect clause = .ok f) :
    entry.WritesNull dialect (fun c => c.qualify c.nullCondition) f := by
  intro null
  obtain ⟨indicated, test, read, -, tested, rfl⟩ := test_of_fragment conditions conformed
  rw [null] at tested
  refine ⟨indicated, read, ?_, fun bare => ?_⟩
  · rw [Comparison.params_qualify]
    exact Comparison.params_of_test_null tested
  · rw [Comparison.test_null bare] at tested
    cases tested
    rfl

theorem writesNull_assignment (payload : clause.holdsConditions = false)
    (conformed : entry.fragment dialect clause = .ok f) :
    entry.WritesNull dialect (fun c => .raw (c.column ++ " = NULL")) f := by
  intro null
  obtain ⟨indicated, read, -, -, assigned⟩ := assignment_of_fragment payload conformed
  rw [null] at assigned
  refine ⟨indicated, read, Comparison.params_of_assignment_null assigned, fun bare => ?_⟩
  rw [Comparison.assignment_null bare] at assigned
  cases assigned
  rfl

theorem namesNull_condition (conditions : clause.holdsConditions = true)
    (identity : entry.options.identity = true) (conformed : entry.fragment dialect clause = .ok f) :
    entry.NamesNull dialect f := by
  intro null
  obtain ⟨indicated, test, read, consistent, tested, rfl⟩ := test_of_fragment conditions conformed
  have inherited : (entry.comparison dialect indicated).options.identity = true := by
    simp [comparison, FieldOptions.merge, identity]
  have bare : (entry.comparison dialect indicated).options.raw = false :=
    Bool.eq_false_iff.mpr fun raw => consistent ⟨raw, inherited⟩
  rw [null, Comparison.test_null bare, Comparison.nullCondition, if_pos inherited] at tested
  cases tested
  exact ⟨indicated, read, rfl⟩

end Entry

/-- Null as the value of a row's field is written as a word unless it is SQL text. -/
def WritesNullSlot (call : FieldOptions) (entry : String × Value) (f : Fragment) : Prop :=
  entry.2 = .null → ∃ indicated, IndicatedField.read entry.1 = .ok indicated ∧ f.params = [] ∧
    ((call.merge indicated.options).raw = false → f = .raw "NULL")

theorem writesNullSlot {call : FieldOptions} {entry : String × Value}
    (conformed : slot dialect call entry.1 entry.2 = .ok f) : WritesNullSlot call entry f := by
  intro null
  rw [null] at conformed
  obtain ⟨resolved, known, conformed⟩ := exists_of_bind_eq_ok conformed
  obtain ⟨indicated, found, known⟩ := exists_of_bind_eq_ok known
  obtain ⟨_, -, known⟩ := exists_of_bind_eq_ok known
  cases known
  simp only at conformed
  split at conformed
  · cases conformed
  · simp only [Value.null, slotContent_eq] at conformed
    cases conformed
    refine ⟨indicated, found, ?_, fun bare => by simp [slotContent, bare, Scalar.isNull]⟩
    cases raw : (call.merge indicated.options).raw with
    | true =>
      simp only [slotContent, raw, FieldOptions.rendered_of_raw raw]
      rfl
    | false =>
      simp only [slotContent, raw]
      rfl

/-! ## Joins -/

/-- A join that is not refused adds its condition as one that compares identifiers. -/
theorem Step.on_of_join {d : Draft} {target : JoinTarget} {kind : JoinKind} {on : Input}
    (fine : ((Step.join target kind (some on)).apply d).error = none) :
    ∃ joined f, ((Step.join target kind (some on)).apply d).joins = d.joins ++ [⟨some kind, joined, some f⟩] ∧
      on.conform d.dialect .filter { identity := true } = .ok f := by
  simp only [Step.apply, Draft.addJoin] at fine ⊢
  obtain ⟨-, j, result, changed⟩ := Draft.accept_eq_of_error_eq_none fine
  obtain ⟨joined, -, result⟩ := exists_of_bind_eq_ok result
  obtain ⟨f, conformed, result⟩ := exists_of_bind_eq_ok result
  cases result
  rw [changed]
  exact ⟨joined, f, rfl, conformed⟩

/-- Options that declare identifiers reach every field of an input. -/
theorem Input.identity_of_entries {entries : List Entry} :
    ∀ (input : Input) (call : FieldOptions), call.identity = true → input.entries? call = some entries →
      ∀ entry ∈ entries, entry.options.identity = true
  | .overridden input options, call, identity, held => by
    have merged : (call.merge options).identity = true := by simp [FieldOptions.merge, identity]
    exact identity_of_entries input (call.merge options) merged held
  | .mapping fields, call, identity, held => by
    cases held
    intro entry member
    obtain ⟨_, -, rfl⟩ := List.mem_map.mp member
    exact identity
  | .condition .., call, identity, held | .id _, call, identity, held => by
    cases held
    simpa using identity
  | .literal _, _, _, held | .rows _, _, _, held | .subquery _, _, _, held | .fragment _, _, _, held => by
    cases held

/-! ## Clauses -/

namespace Input

variable {input : Input} {call options : FieldOptions} {entries : List Entry}

theorem conditions_of_null (conditions : clause.holdsConditions = true)
    (held : input.entries? call = some entries) (conformed : input.conform dialect clause call = .ok f) :
    ∃ tests, f = Fragment.join .and tests ∧
      List.Forall₂ (Entry.WritesNull dialect fun c => c.qualify c.nullCondition) entries tests := by
  have other := Clause.ne_insert_of_conditions conditions
  obtain ⟨tests, each, joined⟩ := fragments_of_conform other input call held conformed
  rw [Clause.combinator, if_pos conditions] at joined
  exact ⟨tests, joined, each.imp fun _ _ => Entry.writesNull_condition conditions⟩

theorem assignments_of_null (held : input.entries? call = some entries)
    (conformed : input.conform dialect .update call = .ok f) :
    ∃ assignments, f = Fragment.join .comma assignments ∧
      List.Forall₂ (Entry.WritesNull dialect fun c => .raw (c.column ++ " = NULL")) entries assignments := by
  obtain ⟨assignments, each, joined⟩ := fragments_of_conform (by decide) input _ held conformed
  exact ⟨assignments, joined, each.imp fun _ _ => Entry.writesNull_assignment rfl⟩

theorem slots_of_null {inserted : List (Fields Value)}
    (held : input.insertion? call = some (inserted, options))
    (conformed : input.conform dialect .insert call = .ok f) :
    ∃ names tuples, f = insertLayout dialect names tuples ∧
      List.Forall₂ (fun row tuple => List.Forall₂ (WritesNullSlot options) row.entries tuple)
        inserted tuples := by
  obtain ⟨first, names, tuples, -, -, layout, each⟩ :=
    layout_of_rowsFragment (rows_of_conform input call held conformed)
  refine ⟨names, tuples, layout, each.imp fun row tuple filled => ?_⟩
  exact (forall₂_of_mapM filled).imp fun _ _ => writesNullSlot

theorem join_of_null {d : Draft} {target : JoinTarget} {kind : JoinKind}
    (held : input.entries? { identity := true } = some entries)
    (fine : ((Step.join target kind (some input)).apply d).error = none) :
    ∃ joined tests, ((Step.join target kind (some input)).apply d).joins =
        d.joins ++ [⟨some kind, joined, some (Fragment.join .and tests)⟩] ∧
      List.Forall₂ (Entry.NamesNull d.dialect) entries tests := by
  obtain ⟨joined, on, joins, conformed⟩ := Step.on_of_join fine
  obtain ⟨tests, each, rfl⟩ := fragments_of_conform (by decide) input _ held conformed
  refine ⟨joined, tests, joins, forall₂_of_forall_mem each fun entry test member => ?_⟩
  exact Entry.namesNull_condition rfl (identity_of_entries input { identity := true } rfl held entry member)

/-- **Null is never bound.**  As the value of a field it adds no parameter.  Unless it is SQL text, it
gives a test for null where a condition binds values, `= NULL` in an assignment, and `NULL` as the
slot of a row, whether values are identifiers or not.  Only a condition takes it for a name among
identifiers, and the condition of a join always does. -/
theorem conform_null (dialect : Dialect) (input : Input) :
    (∀ clause call {entries f}, clause.holdsConditions = true → input.entries? call = some entries →
      input.conform dialect clause call = .ok f →
        ∃ tests, f = Fragment.join .and tests ∧
          List.Forall₂ (Entry.WritesNull dialect fun c => c.qualify c.nullCondition) entries tests) ∧
    (∀ call {entries f}, input.entries? call = some entries →
      input.conform dialect .update call = .ok f →
        ∃ assignments, f = Fragment.join .comma assignments ∧
          List.Forall₂ (Entry.WritesNull dialect fun c => .raw (c.column ++ " = NULL"))
            entries assignments) ∧
    (∀ call {options inserted f}, input.insertion? call = some (inserted, options) →
      input.conform dialect .insert call = .ok f →
        ∃ names tuples, f = insertLayout dialect names tuples ∧
          List.Forall₂ (fun row tuple => List.Forall₂ (WritesNullSlot options) row.entries tuple)
            inserted tuples) ∧
    (∀ (d : Draft) target kind {entries}, input.entries? { identity := true } = some entries →
      ((Step.join target kind (some input)).apply d).error = none →
        ∃ joined tests, ((Step.join target kind (some input)).apply d).joins =
            d.joins ++ [⟨some kind, joined, some (Fragment.join .and tests)⟩] ∧
          List.Forall₂ (Entry.NamesNull d.dialect) entries tests) :=
  ⟨fun _ _ => conditions_of_null, fun _ => assignments_of_null, fun _ => slots_of_null,
    fun _ _ _ => join_of_null⟩

/-- Two fields without a value, of which one is an identifier, in each of the clauses. -/
theorem conform_null_mapping :
    let input : Input := .mapping ⟨[("gone", .null), (":owner", .null)]⟩
    let condition : Fragment := .raw "NOT ( \"gone\" IS NULL )\n\tAND NOT ( \"owner\" = \"NULL\" )"
    let joinCondition : Fragment := .raw "\"gone\" = \"NULL\"\n\tAND \"owner\" = \"NULL\""
    (∃ tests, condition = Fragment.join .and tests ∧ tests.length = 2) ∧
      (∃ assignments, Fragment.raw "\"gone\" = NULL, \"owner\" = NULL" = Fragment.join .comma assignments ∧
        assignments.length = 2) ∧
      (∃ names tuples, Fragment.raw "(\"gone\", \"owner\")\nVALUES (NULL, NULL)" =
        insertLayout .generic names tuples ∧ tuples.length = 1) ∧
      ((Step.join (.table "visits") .left (some input)).apply (Draft.start .generic)).joins =
        [⟨some .left, .raw "\"visits\"", some joinCondition⟩] ∧
      ∃ joined tests,
        ((Step.join (.table "visits") .left (some input)).apply (Draft.start .generic)).joins =
            [⟨some .left, joined, some (Fragment.join .and tests)⟩] ∧ tests.length = 2 := by
  intro input condition joinCondition
  obtain ⟨conditions, assignments, slots, joins⟩ := conform_null .generic input
  obtain ⟨tests, joined, each⟩ :=
    conditions .filter { negated := true } (f := condition) rfl rfl rfl
  obtain ⟨changes, listed, eachChange⟩ := assignments {} rfl rfl
  obtain ⟨names, tuples, layout, eachRow⟩ := slots {} rfl rfl
  obtain ⟨target, onTests, added, eachOn⟩ :=
    joins (Draft.start .generic) (.table "visits") .left rfl rfl
  exact ⟨⟨tests, joined, each.length_eq.symm⟩, ⟨changes, listed, eachChange.length_eq.symm⟩,
    ⟨names, tuples, layout, eachRow.length_eq.symm⟩, rfl, target, onTests, added,
    eachOn.length_eq.symm⟩

/-- A join asks for a column of the name NULL, while an assignment and a slot under the same options
hold null. -/
theorem conform_null_joins_name :
    let query : Query := .mk .generic [.setTable "users",
      .join (.table "visits") .left (some (.condition "visits.gone" none .null))]
    let mapping : Input := .mapping ⟨[("gone", .null)]⟩
    query.build = .ok ⟨.select, .raw
        "SELECT *\nFROM \"users\"\nLEFT JOIN \"visits\" ON \"visits\".\"gone\" = \"NULL\""⟩ ∧
      mapping.conform .generic .update { identity := true } = .ok (.raw "\"gone\" = NULL") ∧
      mapping.conform .generic .insert { identity := true } =
        .ok (.raw "(\"gone\")\nVALUES (NULL)") := by
  decide +kernel

end Input

end SqlAssembly
