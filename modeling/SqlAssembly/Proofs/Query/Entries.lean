import SqlAssembly.Proofs.Clause.Congruence
import SqlAssembly.Proofs.Success
import SqlAssembly.Query.Assembly

/-! # The fields that an input holds

An input that is not text of its own holds fields with values.  The options around it reach all of
them, and a clause turns each into a fragment of its own before it joins them.  What a clause makes
of an input therefore follows from what it makes of one field.

* `Entry`, `Entry.comparison` — a field with its value as it reaches a clause, and the comparison
  that it stands for.
* `Entry.test_of_fragment`, `Entry.fragment_of_test`, `Entry.assignment_of_fragment` — a field as a
  condition or an assignment.
* `Input.entries?`, `Input.insertion?` — the fields of an input, and the rows that it inserts.
* `Input.fragments_of_conform` — an input is conformed field by field.
-/

namespace SqlAssembly

theorem Fragment.join_singleton (combinator : Combinator) (f : Fragment) : join combinator [f] = f := by
  rw [join, List.foldl_cons, List.foldl_nil, append]
  split
  · rename_i nothing
    simp [empty, ← String.isEmpty_iff.mp nothing]
  · rfl

/-! ## Entries -/

/-- A field with its value as it reaches a clause: with the comparator that is given by position, if
one is, and under the options of the call and of the overrides around it. -/
structure Entry where
  field : String
  positional : Option String
  value : Value
  options : FieldOptions
  deriving DecidableEq

/-- A condition as the options of a comparison want it, negated or not. -/
def Comparison.qualify (c : Comparison) (test : Fragment) : Fragment :=
  if c.options.negated then test.negate else test

theorem Comparison.params_qualify (c : Comparison) (test : Fragment) :
    (c.qualify test).params = test.params := by
  unfold qualify
  split <;> rfl

namespace Entry

def fragment (dialect : Dialect) (clause : Clause) (entry : Entry) : Except AssemblyError Fragment :=
  fieldFragment dialect clause entry.options entry.field entry.positional entry.value

/-- The comparison that an entry stands for when its field reads as `indicated`.  A comparator among
the indicators comes first, then one of the options, then the one given by position. -/
def comparison (dialect : Dialect) (entry : Entry) (indicated : IndicatedField) : Comparison where
  dialect := dialect
  name := indicated.name
  comparator :=
    ((indicated.options.comparator <|> entry.options.comparator) <|> entry.positional).getD "="
  options := entry.options.merge indicated.options

variable {dialect : Dialect} {clause : Clause} {entry : Entry} {f : Fragment}

theorem read_of_resolve (dialect : Dialect) {resolved : IndicatedField}
    (known : IndicatedField.resolve entry.field entry.options = .ok resolved) :
    ∃ indicated, IndicatedField.read entry.field = .ok indicated ∧
      resolved = ⟨indicated.name, (entry.comparison dialect indicated).options⟩ ∧
      ¬((entry.comparison dialect indicated).options.raw = true ∧
        (entry.comparison dialect indicated).options.identity = true) := by
  obtain ⟨indicated, found, known⟩ := exists_of_bind_eq_ok known
  obtain ⟨_, checked, known⟩ := exists_of_bind_eq_ok known
  cases known
  -- options that declare a value both SQL text and identifier have been refused
  refine ⟨indicated, found, rfl, fun both => ?_⟩
  rw [FieldOptions.check, if_pos (by simpa [comparison] using both)] at checked
  cases checked

theorem test_of_fragment (conditions : clause.holdsConditions = true)
    (conformed : entry.fragment dialect clause = .ok f) :
    ∃ indicated test, IndicatedField.read entry.field = .ok indicated ∧
      ¬((entry.comparison dialect indicated).options.raw = true ∧
        (entry.comparison dialect indicated).options.identity = true) ∧
      (entry.comparison dialect indicated).test entry.value = .ok test ∧
      f = (entry.comparison dialect indicated).qualify test := by
  obtain ⟨resolved, known, conformed⟩ := exists_of_bind_eq_ok conformed
  obtain ⟨indicated, found, rfl, consistent⟩ := read_of_resolve dialect known
  simp only [if_pos conditions] at conformed
  obtain ⟨test, tested, conformed⟩ := exists_of_bind_eq_ok conformed
  cases conformed
  exact ⟨indicated, test, found, consistent, tested, rfl⟩

theorem fragment_of_test (conditions : clause.holdsConditions = true) {indicated : IndicatedField}
    {test : Fragment} (read : IndicatedField.read entry.field = .ok indicated)
    (consistent : ¬((entry.comparison dialect indicated).options.raw = true ∧
      (entry.comparison dialect indicated).options.identity = true))
    (tested : (entry.comparison dialect indicated).test entry.value = .ok test) :
    entry.fragment dialect clause = .ok ((entry.comparison dialect indicated).qualify test) := by
  have resolved : IndicatedField.resolve entry.field entry.options =
      .ok ⟨indicated.name, (entry.comparison dialect indicated).options⟩ := by
    have checked : (entry.options.merge indicated.options).check entry.field = .ok () :=
      if_neg (by simpa [comparison] using consistent)
    simp only [IndicatedField.resolve, read, bind, Except.bind, checked]
    rfl
  have compared : (⟨dialect, indicated.name,
      ((entry.comparison dialect indicated).options.comparator <|> entry.positional).getD "=",
      (entry.comparison dialect indicated).options⟩ : Comparison) = entry.comparison dialect indicated := rfl
  simp only [fragment, fieldFragment, resolved, bind, Except.bind, if_pos conditions, compared, tested]
  rfl

theorem assignment_of_fragment (payload : clause.holdsConditions = false)
    (conformed : entry.fragment dialect clause = .ok f) :
    ∃ indicated, IndicatedField.read entry.field = .ok indicated ∧
      ¬((entry.comparison dialect indicated).options.raw = true ∧
        (entry.comparison dialect indicated).options.identity = true) ∧
      ¬(entry.comparison dialect indicated).options.negated = true ∧
      (entry.comparison dialect indicated).assignment entry.value = .ok f := by
  obtain ⟨resolved, known, conformed⟩ := exists_of_bind_eq_ok conformed
  obtain ⟨indicated, found, rfl, consistent⟩ := read_of_resolve dialect known
  simp only [payload, Bool.false_eq_true, if_false] at conformed
  split at conformed
  · cases conformed
  · rename_i affirmed
    exact ⟨indicated, found, consistent, affirmed, conformed⟩

end Entry

/-! ## Inputs -/

/-- What stands between the fields of an input in a clause. -/
def Clause.combinator (clause : Clause) : Combinator := if clause.holdsConditions then .and else .comma

theorem Clause.ne_insert_of_conditions {clause : Clause} (conditions : clause.holdsConditions = true) :
    clause ≠ .insert := by
  rintro rfl
  cases conditions

namespace Input

/-- The fields that an input holds, under the options of a call.  Texts, fragments and nested
statements hold none, and rows are no fields of a condition or an assignment. -/
def entries? : Input → FieldOptions → Option (List Entry)
  | .overridden input options, call => input.entries? (call.merge options)
  | .mapping fields, call =>
    some (fields.entries.map fun (field, value) => ⟨field, none, value, call⟩)
  | .condition field positional value, call => some [⟨field, positional, value, call⟩]
  | .id n, call => some [⟨"id", none, .scalar (.int n), call⟩]
  | _, _ => none

/-- The rows that an input inserts, with the options that reach their fields. -/
def insertion? : Input → FieldOptions → Option (List (Fields Value) × FieldOptions)
  | .overridden input options, call => input.insertion? (call.merge options)
  | .mapping fields, call => some ([fields], call)
  | .condition field _ value, call => some ([Fields.empty.set field value], call)
  | .rows given, call => some (given, call)
  | _, _ => none

variable {dialect : Dialect} {clause : Clause} {f : Fragment}

/-- An input that holds fields is conformed field by field. -/
theorem fragments_of_conform (other : clause ≠ .insert) {entries : List Entry} :
    ∀ (input : Input) (call : FieldOptions), input.entries? call = some entries →
      input.conform dialect clause call = .ok f →
        ∃ fragments, List.Forall₂ (fun entry g => entry.fragment dialect clause = .ok g) entries fragments ∧
          f = Fragment.join clause.combinator fragments
  | .overridden input options, call, held, conformed => by
    simp only [conform] at conformed
    exact fragments_of_conform other input (call.merge options) held conformed
  | .mapping fields, call, held, conformed => by
    simp only [conform, if_neg other] at conformed
    obtain ⟨fragments, each, conformed⟩ := exists_of_bind_eq_ok conformed
    cases held
    cases conformed
    exact ⟨fragments, List.forall₂_map_left_iff.mpr (forall₂_of_mapM each), rfl⟩
  | .condition field positional value, call, held, conformed => by
    simp only [conform, if_neg other] at conformed
    cases held
    exact ⟨[f], .cons conformed .nil, (Fragment.join_singleton _ f).symm⟩
  | .id n, call, held, conformed => by
    simp only [conform] at conformed
    cases held
    split at conformed
    · exact ⟨[f], .cons conformed .nil, (Fragment.join_singleton _ f).symm⟩
    · cases conformed
  | .literal _, _, held, _ | .rows _, _, held, _ | .subquery _, _, held, _ | .fragment _, _, held, _ => by
    cases held

theorem conform_of_entry (conditions : clause.holdsConditions = true) {entry : Entry} :
    ∀ (input : Input) (call : FieldOptions), input.entries? call = some [entry] →
      input.conform dialect clause call = entry.fragment dialect clause
  | .overridden input options, call, held => by
    simp only [conform]
    exact conform_of_entry conditions input (call.merge options) held
  | .mapping fields, call, held => by
    have other := Clause.ne_insert_of_conditions conditions
    simp only [entries?, Option.some.injEq, List.map_eq_singleton_iff] at held
    obtain ⟨⟨field, value⟩, only, rfl⟩ := held
    simp only [conform, if_neg other, mappingFragment, only, List.mapM_cons, List.mapM_nil,
      Entry.fragment]
    cases fieldFragment dialect clause call field none value with
    | error e => rfl
    | ok f => exact congrArg Except.ok (Fragment.join_singleton _ f)
  | .condition field positional value, call, held => by
    have other := Clause.ne_insert_of_conditions conditions
    cases held
    simp only [conform, if_neg other, Entry.fragment]
  | .id n, call, held => by
    cases held
    simp only [conform, if_pos conditions, Entry.fragment]
  | .literal _, _, held | .rows _, _, held | .subquery _, _, held | .fragment _, _, held => by
    cases held

theorem rows_of_conform {inserted : List (Fields Value)} {options : FieldOptions} :
    ∀ (input : Input) (call : FieldOptions), input.insertion? call = some (inserted, options) →
      input.conform dialect .insert call = .ok f → rowsFragment dialect options inserted = .ok f
  | .overridden input options, call, held, conformed => by
    simp only [conform] at conformed
    exact rows_of_conform input (call.merge options) held conformed
  | .mapping fields, call, held, conformed => by
    simp only [conform, if_true] at conformed
    cases held
    exact conformed
  | .condition field positional value, call, held, conformed => by
    simp only [conform, if_true, insertField] at conformed
    cases held
    split at conformed
    · exact conformed
    · exact conformed
    · cases conformed
  | .rows given, call, held, conformed => by
    simp only [conform, if_true] at conformed
    cases held
    exact conformed
  | .literal _, _, held, _ | .id _, _, held, _ | .subquery _, _, held, _ | .fragment _, _, held, _ => by
    cases held

end Input

end SqlAssembly
