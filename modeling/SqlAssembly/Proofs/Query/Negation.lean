import SqlAssembly.Proofs.Condition.Reading
import SqlAssembly.Proofs.Query.Blankness
import SqlAssembly.Proofs.Query.Entries

/-! # Negated conditions

A condition can be negated by the options of a step, by those of an override around its input and by
an indicator of its field.  They are flags, and what they say together is that the condition is
negated, not how often.  A step that negates its input therefore negates a condition that stands as
it is, and changes nothing about one that is negated already.

* `Input.isNegated` — whether an input of one condition is negated under the options of a call.
* `Input.conform_negating` — such an input under one negation more.
* `Query.filterNot_negates` — what a negating step adds, and what that says.
-/

namespace SqlAssembly

open Condition

variable {dialect : Dialect} {clause : Clause}

/-! ## Options that negate -/

/-- The options with a negation. -/
def FieldOptions.negating (options : FieldOptions) : FieldOptions := { options with negated := true }

theorem FieldOptions.negating_merge (outer inner : FieldOptions) :
    outer.negating.merge inner = (outer.merge inner).negating := rfl

/-! ## Fields -/

namespace Entry

def negating (entry : Entry) : Entry := { entry with options := entry.options.negating }

/-- Whether a field is negated, by the options above it or by its indicators. -/
def isNegated (entry : Entry) : Bool :=
  entry.options.negated ||
    match IndicatedField.read entry.field with
    | .ok indicated => indicated.options.negated
    | .error _ => false

variable {entry : Entry} {f : Fragment}

theorem isNegated_of_read {indicated : IndicatedField}
    (read : IndicatedField.read entry.field = .ok indicated) (dialect : Dialect) :
    entry.isNegated = (entry.comparison dialect indicated).options.negated := by
  rw [isNegated, read]
  rfl

/-- One negation more changes a condition only if it is the first. -/
theorem fragment_negating (conditions : clause.holdsConditions = true)
    (conformed : entry.fragment dialect clause = .ok f) :
    entry.negating.fragment dialect clause = .ok (if entry.isNegated then f else f.negate) := by
  obtain ⟨indicated, test, read, consistent, tested, rfl⟩ := test_of_fragment conditions conformed
  have testedToo : (entry.negating.comparison dialect indicated).test entry.value = .ok test := by
    rw [← tested]
    rfl
  have conformedToo : entry.negating.fragment dialect clause = .ok test.negate :=
    fragment_of_test conditions read consistent testedToo
  rw [conformedToo, isNegated_of_read read dialect, Comparison.qualify]
  split <;> rfl

end Entry

/-! ## Inputs -/

theorem passThrough_negating (call : FieldOptions) (f : Fragment) :
    passThrough call.negating f =
      if call.negated then passThrough call f else (passThrough call f).negate := by
  unfold passThrough
  rw [if_pos (show call.negating.negated = true from rfl)]
  split <;> rfl

namespace Input

/-- Whether an input is negated under the options of a call: its one field is, or its text as a
whole. -/
def isNegated (input : Input) (call : FieldOptions) : Bool :=
  match input.entries? call with
  | some entries => entries.any Entry.isNegated
  | none => input.negatesText call

/-- An input is a text, a fragment, the statement of a query or a single field, with overrides or
without. -/
def isSingle (input : Input) (call : FieldOptions) : Bool :=
  (input.entries? call).all fun entries => entries.length = 1

theorem entries?_negating : ∀ (input : Input) (call : FieldOptions),
    input.entries? call.negating = (input.entries? call).map (List.map Entry.negating)
  | .overridden input options, call => by
    simp only [entries?, FieldOptions.negating_merge]
    exact entries?_negating input (call.merge options)
  | .mapping fields, call => by
    simp only [entries?, Option.map_some, List.map_map]
    rfl
  | .condition .., _ | .id _, _ | .literal _, _ | .rows _, _ | .subquery _, _ | .fragment _, _ => rfl

/-- An input without fields is negated as a whole. -/
theorem conform_negating_text (conditions : clause.holdsConditions = true) {f : Fragment} :
    ∀ (input : Input) (call : FieldOptions), input.entries? call = none →
      input.conform dialect clause call = .ok f →
        input.conform dialect clause call.negating =
          .ok (if input.negatesText call then f else f.negate)
  | .overridden input options, call, text, conformed => by
    rw [conform] at conformed ⊢
    exact conform_negating_text conditions input (call.merge options) text conformed
  | .literal sql, call, _, conformed => by
    rw [conform] at conformed ⊢
    cases conformed
    exact congrArg Except.ok (passThrough_negating call (.raw sql))
  | .fragment g, call, _, conformed => by
    rw [conform] at conformed ⊢
    cases conformed
    exact congrArg Except.ok (passThrough_negating call g)
  | .subquery query, call, _, conformed => by
    rw [conform] at conformed ⊢
    obtain ⟨statement, built, conformed⟩ := exists_of_bind_eq_ok conformed
    cases conformed
    rw [built]
    exact congrArg Except.ok (passThrough_negating call statement.nested)
  | .rows given, call, _, conformed => by
    have other := Clause.ne_insert_of_conditions conditions
    simp only [conform, if_neg other] at conformed
    cases conformed
  | .mapping _, _, text, _ | .condition .., _, text, _ | .id _, _, text, _ => by cases text

/-- **One negation more.**  An input of one condition is negated by it unless it is negated already. -/
theorem conform_negating (conditions : clause.holdsConditions = true) {input : Input}
    {call : FieldOptions} {f : Fragment} (single : input.isSingle call = true)
    (conformed : input.conform dialect clause call = .ok f) :
    input.conform dialect clause call.negating =
      .ok (if input.isNegated call then f else f.negate) := by
  cases held : input.entries? call with
  | none =>
    rw [isNegated, held]
    exact conform_negating_text conditions input call held conformed
  | some entries =>
    rw [isSingle, held, Option.all_some, decide_eq_true_eq, List.length_eq_one_iff] at single
    obtain ⟨entry, rfl⟩ := single
    have heldToo : input.entries? call.negating = some [entry.negating] := by
      rw [entries?_negating, held]
      rfl
    rw [conform_of_entry conditions input call held] at conformed
    rw [conform_of_entry conditions input call.negating heldToo,
      Entry.fragment_negating conditions conformed, isNegated, held]
    simp only [List.any_cons, List.any_nil, Bool.or_false]

end Input

/-! ## Steps -/

theorem Draft.added_of_addCondition {d : Draft} {result : Except AssemblyError Fragment} {f : Fragment}
    (added : (d.addCondition result).conditions = d.conditions ++ [f]) :
    d.error = none ∧ result = .ok f ∧ f.isBlank = false := by
  have longer : (d.addCondition result).conditions ≠ d.conditions := by simp [added]
  unfold addCondition accept at added longer
  cases error : d.error with
  | some e => simp [error] at longer
  | none =>
    cases result with
    | error e => simp [error] at longer
    | ok g =>
      simp only [error] at added longer
      split at longer
      · exact absurd rfl longer
      · rename_i visible
        rw [if_neg visible] at added
        obtain rfl : g = f := by simpa using added
        exact ⟨rfl, rfl, by simpa using visible⟩

/-- **A negating step negates once.**  Where an input of one condition adds a condition to a query, the
same input under a negating step adds one with the same parameters.  It says the contrary of the first
one unless the input is negated already, by an override or by its field; then it is the first one. -/
theorem Query.filterNot_negates (query : Query) (input : Input) {f : Fragment}
    (single : input.isSingle {} = true)
    (added : (query.extend [.filter input {}]).draft.conditions = query.draft.conditions ++ [f]) :
    let contrary := if input.isNegated {} then f else f.negate
    (query.extend [.filterNot input]).draft.conditions = query.draft.conditions ++ [contrary] ∧
      contrary.isBlank = false ∧ contrary.params = f.params ∧
      (isReadable f.sql = true → isReadable contrary.sql = true ∧
        ∀ truth b, (meaning f.sql).holds truth = b →
          (meaning contrary.sql).holds truth = if input.isNegated {} then b else !b) := by
  intro contrary
  have step (options : FieldOptions) : (query.extend [.filter input options]).draft =
      query.draft.addCondition (input.conform query.draft.dialect .filter options) := by
    simp only [draft_extend, Step.applyAll, Step.apply]
  rw [step] at added
  obtain ⟨fine, conformed, visible⟩ := Draft.added_of_addCondition added
  have conformedToo : input.conform query.draft.dialect .filter { negated := true } = .ok contrary :=
    Input.conform_negating rfl single conformed
  have visibleToo : contrary.isBlank = false := by
    unfold contrary
    split
    · exact visible
    · exact f.isBlank_negate
  refine ⟨?_, visibleToo, ?_, fun readable => ?_⟩
  · rw [Step.filterNot, step, conformedToo, Draft.addCondition_of_visible fine visibleToo]
  · unfold contrary
    split <;> rfl
  · unfold contrary
    have reads := reads_of_isReadable readable
    split
    · exact ⟨readable, fun truth b same => same⟩
    · refine ⟨reads.negate.readable, ?_⟩
      rintro truth b rfl
      rw [Fragment.negate, reads.negate.meaning]
      rfl

/-- A comparator in an override does not negate: the step negates the test that it gives. -/
theorem Query.filterNot_negates_overridden :
    let query : Query := .mk .sqlite [.setTable "t", .filter (.id 7) {}]
    let input : Input := .overridden (.mapping ⟨[("age", .scalar (.int 18))]⟩) { comparator := some ">" }
    let test : Fragment := ⟨"\"age\" > ?", [.int 18]⟩
    (query.extend [.filter input {}]).draft.conditions = query.draft.conditions ++ [test] ∧
      (query.extend [.filterNot input]).draft.conditions = query.draft.conditions ++ [test.negate] ∧
      isReadable test.negate.sql = true ∧
      ∀ truth, (meaning test.negate.sql).holds truth = !(meaning test.sql).holds truth := by
  intro query input test
  have added : (query.extend [.filter input {}]).draft.conditions = query.draft.conditions ++ [test] := by
    decide +kernel
  obtain ⟨negated, -, -, reads⟩ := Query.filterNot_negates query input rfl added
  obtain ⟨readable, contrary⟩ := reads (by decide +kernel)
  exact ⟨added, negated, readable, fun truth => contrary truth _ rfl⟩

/-- A field negated by its indicator is added as it is by a negating step, whatever its test says. -/
theorem Query.filterNot_keeps_negation :
    let query : Query := .mk .generic [.setTable "t"]
    let input : Input := .condition "!a" none (.scalar (.int 1))
    let condition : Fragment := ⟨"NOT ( \"a\" = ? )", [.int 1]⟩
    (query.extend [.filter input {}]).draft.conditions = [condition] ∧
      (query.extend [.filterNot input]).draft.conditions = [condition] ∧
      isReadable condition.sql = true ∧
      (meaning condition.sql).holds (fun _ _ => false) = true := by
  decide +kernel

end SqlAssembly
