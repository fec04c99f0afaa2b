import SqlAssembly.Proofs.Query.Payload

/-! # Options from several levels

The options of a field come from its indicators, from the overrides around the input, of which the
innermost counts first, and from the call.  They are merged from the outside inwards, and merging is
associative, so it does not matter where in the recursion that happens: all levels together give the
flags that any of them sets, and the comparator of the innermost one that has a comparator.

* `FieldOptions.combined` — what levels of options say together.
* `Input.core`, `Input.overrides` — an input without its overrides, and these.
* `Comparison.ofLevels`, `Comparison.Writes` — a comparison under levels of options, and what a clause
  writes of it.
* `Input.conform_under_levels` — overrides around an input are merged into the options of the call.
-/

namespace SqlAssembly

variable {dialect : Dialect} {clause : Clause} {f : Fragment}

/-! ## Merging -/

namespace FieldOptions

theorem merge_assoc (a b c : FieldOptions) : (a.merge b).merge c = a.merge (b.merge c) := by
  simp only [merge, Bool.or_assoc, mk.injEq, true_and]
  cases c.comparator <;> rfl

theorem none_merge (options : FieldOptions) : none.merge options = options := by
  cases options with
  | mk raw negated identity comparator => cases comparator <;> rfl

theorem merge_none (options : FieldOptions) : options.merge none = options := by
  cases options with
  | mk raw negated identity comparator => simp [merge, none]

/-- What levels of options say together, the innermost first. -/
def combined (levels : List FieldOptions) : FieldOptions where
  raw := levels.any (·.raw)
  negated := levels.any (·.negated)
  identity := levels.any (·.identity)
  comparator := levels.findSome? (·.comparator)

theorem combined_cons (inner : FieldOptions) (outer : List FieldOptions) :
    combined (inner :: outer) = (combined outer).merge inner := by
  simp only [combined, merge, List.any_cons, List.findSome?_cons, Bool.or_comm, mk.injEq, true_and]
  cases inner.comparator <;> rfl

theorem combined_singleton (options : FieldOptions) : combined [options] = options := by
  rw [combined_cons]
  exact none_merge options

theorem foldl_merge_reverse (call : FieldOptions) (overrides : List FieldOptions) :
    overrides.reverse.foldl merge call = combined (overrides ++ [call]) := by
  induction overrides with
  | nil => exact (combined_singleton call).symm
  | cons options overrides inductionHypothesis =>
    rw [List.reverse_cons, List.foldl_append, inductionHypothesis, List.cons_append, combined_cons]
    rfl

end FieldOptions

/-! ## Overrides -/

namespace Input

/-- An input with overrides around it, the innermost first. -/
def overriddenBy (input : Input) (overrides : List FieldOptions) : Input :=
  overrides.foldl .overridden input

/-- The input inside all overrides. -/
def core : Input → Input
  | .overridden input _ => input.core
  | other => other

/-- The overrides around an input, the innermost first. -/
def overrides : Input → List FieldOptions
  | .overridden input options => input.overrides ++ [options]
  | _ => []

theorem overriddenBy_append (input : Input) (inner outer : List FieldOptions) :
    input.overriddenBy (inner ++ outer) = (input.overriddenBy inner).overriddenBy outer :=
  List.foldl_append

theorem core_overriddenBy_overrides : ∀ input : Input, input.core.overriddenBy input.overrides = input
  | .overridden input options => by
    rw [core, overrides, overriddenBy_append, core_overriddenBy_overrides input]
    rfl
  | .literal _ | .mapping _ | .rows _ | .condition .. | .id _ | .subquery _ | .fragment _ => rfl

theorem conform_overriddenBy (dialect : Dialect) (clause : Clause) (input : Input)
    (overrides : List FieldOptions) (call : FieldOptions) :
    (input.overriddenBy overrides).conform dialect clause call =
      input.conform dialect clause (overrides.reverse.foldl .merge call) := by
  induction overrides generalizing input with
  | nil => rfl
  | cons options overrides inductionHypothesis =>
    -- the innermost override is met last, when all the others have been merged already
    rw [List.reverse_cons, List.foldl_append]
    have inside := inductionHypothesis (.overridden input options)
    simp only [conform] at inside
    exact inside

/-- An input is conformed as what is inside its overrides, under all levels of options. -/
theorem conform_core (dialect : Dialect) (clause : Clause) (input : Input) (overrides : List FieldOptions)
    (call : FieldOptions) :
    (input.overriddenBy overrides).conform dialect clause call =
      input.core.conform dialect clause (.combined (input.overrides ++ overrides ++ [call])) := by
  conv_lhs => rw [← core_overriddenBy_overrides input]
  rw [← overriddenBy_append, conform_overriddenBy, FieldOptions.foldl_merge_reverse]

theorem isText_core : ∀ input : Input, input.core.isText = input.isText
  | .overridden input _ => isText_core input
  | .literal _ | .mapping _ | .rows _ | .condition .. | .id _ | .subquery _ | .fragment _ => rfl

end Input

/-! ## Fields under levels of options -/

namespace Comparison

/-- The comparison of a field under levels of options, the innermost first. -/
def ofLevels (dialect : Dialect) (name : String) (positional : Option String) (levels : List FieldOptions) :
    Comparison where
  dialect := dialect
  name := name
  comparator := ((levels.findSome? (·.comparator)).or positional).getD "="
  options := .combined levels

/-- What a clause writes of a value: a test in a condition, an assignment in SET, or a slot of an insert.
No value is written as SQL text and as identifier, and no payload is negated. -/
def Writes (c : Comparison) (clause : Clause) (value : Value) (f : Fragment) : Prop :=
  ¬(c.options.raw = true ∧ c.options.identity = true) ∧
    match clause with
    | .filter | .having => ∃ test, c.test value = .ok test ∧ f = c.qualify test
    | .update => ¬c.options.negated = true ∧ c.assignment value = .ok f
    | .insert => ¬c.options.negated = true ∧ ∃ s, value = .scalar s ∧ f = c.slotted s

end Comparison

namespace Entry

/-- What a clause writes of a field under levels of options, of which its indicators are the innermost. -/
def WrittenUnder (dialect : Dialect) (clause : Clause) (levels : List FieldOptions) (entry : Entry)
    (f : Fragment) : Prop :=
  ∃ indicated, IndicatedField.read entry.field = .ok indicated ∧
    (Comparison.ofLevels dialect indicated.name entry.positional (indicated.options :: levels)).Writes clause
      entry.value f

def under (call : FieldOptions) (entry : Entry) : Entry := { entry with options := call }

variable {entry : Entry} {levels : List FieldOptions}

theorem comparison_under (dialect : Dialect) (entry : Entry) (levels : List FieldOptions)
    (indicated : IndicatedField) :
    (entry.under (.combined levels)).comparison dialect indicated =
      .ofLevels dialect indicated.name entry.positional (indicated.options :: levels) := by
  rw [Comparison.ofLevels, FieldOptions.combined_cons, List.findSome?_cons]
  cases own : indicated.options.comparator <;>
    simp [comparison, under, FieldOptions.combined, own]

theorem written_of_fragment (other : clause ≠ .insert)
    (conformed : (entry.under (.combined levels)).fragment dialect clause = .ok f) :
    entry.WrittenUnder dialect clause levels f := by
  cases conditions : clause.holdsConditions with
  | true =>
    obtain ⟨indicated, test, read, consistent, tested, rfl⟩ := test_of_fragment conditions conformed
    rw [comparison_under] at consistent tested ⊢
    refine ⟨indicated, read, consistent, ?_⟩
    cases clause with
    | filter | having => exact ⟨test, tested, rfl⟩
    | update | insert => cases conditions
  | false =>
    obtain ⟨indicated, read, consistent, affirmed, assigned⟩ := assignment_of_fragment conditions conformed
    rw [comparison_under] at consistent affirmed assigned
    refine ⟨indicated, read, consistent, ?_⟩
    cases clause with
    | filter | having => cases conditions
    | update => exact ⟨affirmed, assigned⟩
    | insert => exact absurd rfl other

theorem written_of_hasSlot (filled : (entry.under (.combined levels)).HasSlot dialect f) :
    entry.WrittenUnder dialect .insert levels f := by
  obtain ⟨indicated, s, read, consistent, affirmed, value, content⟩ := exists_of_hasSlot filled
  rw [comparison_under] at consistent affirmed content
  exact ⟨indicated, read, consistent, affirmed, s, value, content⟩

end Entry

namespace Input

theorem fieldRows_core : ∀ (input : Input) (call : FieldOptions),
    input.core.fieldRows call = (input.core.fieldRows .none).map (List.map (Entry.under call))
  | .overridden input _, call => fieldRows_core input call
  | .mapping fields, call => by
    simp [core, fieldRows, rowEntries, Entry.under]
  | .rows given, call => by
    simp [core, fieldRows, rowEntries, Entry.under, Function.comp_def]
  | .condition .., _ | .id _, _ | .literal _, _ | .fragment _, _ | .subquery _, _ => rfl

theorem conform_core_text : ∀ (input : Input) (call : FieldOptions), input.isText = true →
    input.core.conform dialect clause call =
      (input.core.conform dialect clause .none).map fun f => if call.negated then f.negate else f
  | .overridden input _, call, text => conform_core_text input call text
  | .literal sql, call, _ | .fragment g, call, _ => by
    simp only [core, conform]
    rfl
  | .subquery query, call, _ => by
    simp only [core, conform]
    cases query.build <;> rfl
  | .mapping _, _, noText | .rows _, _, noText | .condition .., _, noText | .id _, _, noText => by
    cases noText

/-- **Overrides are merged into the options of the call.**  Merging is associative, and the options that
change nothing are neutral.  An input with overrides around it is conformed like the input itself under
those of the call, merged with the overrides from the outside inwards.  So what is written of a field has
the flags that any level sets, and the comparator of the innermost level that has one, then the one given
by position, then `=`; text is negated if any level says so. -/
theorem conform_under_levels (dialect : Dialect) (input : Input) (overrides : List FieldOptions)
    (call : FieldOptions) :
    (∀ a b c : FieldOptions, (a.merge b).merge c = a.merge (b.merge c)) ∧
    (∀ a : FieldOptions, FieldOptions.none.merge a = a ∧ a.merge .none = a) ∧
    (∀ clause, (input.overriddenBy overrides).conform dialect clause call =
      input.conform dialect clause (overrides.reverse.foldl .merge call)) ∧
    let levels := input.overrides ++ overrides ++ [call]
    (∀ clause f, clause ≠ .insert → input.isText = false →
      (input.overriddenBy overrides).conform dialect clause call = .ok f →
        ∃ parts, f = Fragment.join clause.combinator parts ∧
          List.Forall₂ (Entry.WrittenUnder dialect clause levels) (input.core.fieldRows .none).flatten parts) ∧
    (∀ f, input.isText = false → (input.overriddenBy overrides).conform dialect .insert call = .ok f →
      ∃ names tuples, f = insertLayout dialect names tuples ∧
        List.Forall₂ (List.Forall₂ (Entry.WrittenUnder dialect .insert levels)) (input.core.fieldRows .none)
          tuples) ∧
    (∀ clause, input.isText = true → (input.overriddenBy overrides).conform dialect clause call =
      (input.core.conform dialect clause .none).map
        fun f => if levels.any (·.negated) then f.negate else f) := by
  have flattened (clause : Clause) := conform_core dialect clause input overrides call
  refine ⟨FieldOptions.merge_assoc, fun a => ⟨a.none_merge, a.merge_none⟩,
    fun clause => conform_overriddenBy dialect clause input overrides call, ?_⟩
  intro levels
  refine ⟨fun clause f other noText conformed => ?_, fun f noText conformed => ?_, fun clause text => ?_⟩
  · rw [flattened] at conformed
    rw [← isText_core] at noText
    have held := entries_of_conform other input.core _ noText conformed
    obtain ⟨parts, each, joined⟩ := fragments_of_conform other input.core _ held conformed
    rw [fieldRows_core, ← List.map_flatten, List.forall₂_map_left_iff] at each
    exact ⟨parts, joined, each.imp fun entry g => Entry.written_of_fragment other⟩
  · rw [flattened] at conformed
    rw [← isText_core] at noText
    obtain ⟨names, tuples, layout, filled, -⟩ := hasSlots_of_conform input.core _ noText conformed
    rw [fieldRows_core, List.forall₂_map_left_iff] at filled
    refine ⟨names, tuples, layout, filled.imp fun row tuple slots => ?_⟩
    rw [List.forall₂_map_left_iff] at slots
    exact slots.imp fun entry g => Entry.written_of_hasSlot
  · rw [flattened]
    exact conform_core_text input _ text

/-- Overrides with comparators around a mapping, of which one field has a comparator of its own, in a step
that negates. -/
theorem conform_under_levels_negated :
    let input : Input := .mapping ⟨[("a", .scalar (.int 1)), ("?>?b", .scalar (.int 2))]⟩
    let overrides : List FieldOptions := [{ comparator := some "<=" }, { comparator := some "!=" }]
    let call : FieldOptions := { negated := true, comparator := some "<" }
    let test : Fragment := ⟨"NOT ( \"a\" <= ? )\n\tAND NOT ( \"b\" > ? )", [.int 1, .int 2]⟩
    (input.overriddenBy overrides).conform .generic .filter call = .ok test ∧
      ∃ parts, test = Fragment.join .and parts ∧
        List.Forall₂ (Entry.WrittenUnder .generic .filter (overrides ++ [call]))
          [⟨"a", none, .scalar (.int 1), .none⟩, ⟨"?>?b", none, .scalar (.int 2), .none⟩] parts := by
  intro input overrides call test
  have conformed : (input.overriddenBy overrides).conform .generic .filter call = .ok test := by
    decide +kernel
  obtain ⟨-, -, -, fields, -⟩ := conform_under_levels .generic input overrides call
  exact ⟨conformed, fields .filter test (by decide) rfl conformed⟩

end Input

end SqlAssembly
