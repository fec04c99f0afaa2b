import SqlAssembly.Proofs.Query.Calls
import SqlAssembly.Proofs.Query.Failure

/-! # Conditions without text

A condition whose text is blank is dropped, so that it guards nothing.  Whether it is blank is
asked of the text with its negation, and a negated text is never blank.  Fields are negated one
by one, and a field is never blank by itself, so what matters is a negation around the text as a
whole.

* `Comparison.isBlank_test`, `Comparison.isBlank_assignment`, `isBlank_fieldFragment` — fields are visible.
* `Input.negatesText` — whether a negation is put around the whole text of an input.
* `Input.conform_of_blank` — an input that is blank but for its negation.
* `Query.filter_blank` — such an input as a condition of a query.
-/

namespace SqlAssembly

/-! ## Fields are visible -/

theorem Text.isBlank_intercalate {separator : String} {texts : List String} {t : String}
    (member : t ∈ texts) (visible : isBlank t = false) : isBlank (separator.intercalate texts) = false := by
  induction texts with
  | nil => cases member
  | cons first rest inductionHypothesis =>
    cases rest with
    | nil =>
      rw [List.mem_singleton.mp member] at visible
      simpa using visible
    | cons second others =>
      rw [String.intercalate_cons_cons, isBlank_append, isBlank_append]
      rcases List.mem_cons.mp member with rfl | later
      · simp [visible]
      · simp [inductionHypothesis later]

namespace Dialect

variable (dialect : Dialect)

theorem isBlank_quoteSegment (segment : String) : Text.isBlank (dialect.quoteSegment segment) = false := by
  simp only [quoteSegment]
  split
  · rename_i star
    subst star
    rfl
  · rw [Text.isBlank_append, Text.isBlank_append]
    cases dialect <;> rfl

theorem isBlank_quoteIdentifier (name : String) :
    Text.isBlank (dialect.quoteIdentifier name) = false := by
  simp only [quoteIdentifier]
  split
  · rename_i dotted
    have dot : '.' ∈ name.toList := by simp_all
    rw [Text.isBlank, List.all_eq_false]
    exact ⟨_, dot, by decide⟩
  · obtain ⟨first, others, pieces⟩ :=
      List.exists_cons_of_ne_nil (List.splitOnP_ne_nil (· == '.') name.toList)
    rw [Text.splitAtChar, pieces, List.map_cons, List.map_cons]
    exact Text.isBlank_intercalate List.mem_cons_self (dialect.isBlank_quoteSegment _)

end Dialect

namespace Comparison

variable (c : Comparison)

theorem isBlank_column_append (rest : String) : Text.isBlank (c.column ++ rest) = false := by
  rw [Text.isBlank_append, column, Dialect.isBlank_quoteIdentifier, Bool.false_and]

theorem isBlank_scalar (s : Scalar) : (c.scalar s).isBlank = false := by
  simp only [scalar]
  split <;> simp only [Fragment.isBlank, Fragment.raw, String.append_assoc, isBlank_column_append]

theorem isBlank_membership (items : List Scalar) : (c.membership items).isBlank = false := by
  simp only [membership]
  split <;> simp only [Fragment.isBlank, Fragment.raw, String.append_assoc, isBlank_column_append]

theorem isBlank_nullTest : c.nullTest.isBlank = false := by
  simp only [nullTest, Fragment.isBlank, Fragment.raw, isBlank_column_append]

/-- A test names its column. -/
theorem isBlank_test {c : Comparison} {value : Value} {f : Fragment} (tested : c.test value = .ok f) :
    f.isBlank = false := by
  simp only [test] at tested
  split at tested
  · cases tested
  · obtain ⟨items, -, tested⟩ := exists_of_bind_eq_ok tested
    cases tested
    exact c.isBlank_membership items
  · cases tested
  · cases tested
    split
    · exact c.isBlank_nullTest
    · exact c.isBlank_scalar .null
  · cases tested
    exact c.isBlank_scalar _

/-- An assignment names its column. -/
theorem isBlank_assignment {c : Comparison} {value : Value} {f : Fragment}
    (assigned : c.assignment value = .ok f) : f.isBlank = false := by
  simp only [assignment] at assigned
  split at assigned
  · cases assigned
  · cases assigned
  · cases assigned
    split
    · exact c.isBlank_scalar .null
    · exact c.isBlank_column_append " = NULL"
  · cases assigned
    exact c.isBlank_scalar _

end Comparison

theorem Fragment.isBlank_negate (f : Fragment) : f.negate.isBlank = false := by
  rw [isBlank, negate, Text.isBlank_append, Text.isBlank_append]
  rfl

theorem isBlank_fieldFragment {dialect : Dialect} {clause : Clause} {call : FieldOptions} {field : String}
    {positional : Option String} {value : Value} {f : Fragment}
    (conformed : fieldFragment dialect clause call field positional value = .ok f) :
    f.isBlank = false := by
  obtain ⟨⟨name, options⟩, -, conformed⟩ := exists_of_bind_eq_ok conformed
  simp only at conformed
  split at conformed
  · obtain ⟨test, tested, conformed⟩ := exists_of_bind_eq_ok conformed
    cases conformed
    split
    · exact test.isBlank_negate
    · exact Comparison.isBlank_test tested
  · split at conformed
    · cases conformed
    · exact Comparison.isBlank_assignment conformed

/-- The conditions of a mapping are visible as soon as it has a field. -/
theorem isBlank_mappingFragment {dialect : Dialect} {call : FieldOptions} {fields : Fields Value}
    {f : Fragment} (conformed : mappingFragment dialect .filter call fields = .ok f)
    (given : fields.entries ≠ []) : f.isBlank = false := by
  obtain ⟨fragments, each, conformed⟩ := exists_of_bind_eq_ok conformed
  cases conformed
  obtain ⟨entry, rest, entries⟩ := List.exists_cons_of_ne_nil given
  rw [entries] at each
  cases forall₂_of_mapM each with
  | cons first _ => exact Fragment.isBlank_join List.mem_cons_self (isBlank_fieldFragment first)

theorem mappingFragment_of_empty {fields : Fields Value} (nothing : fields.entries = [])
    (dialect : Dialect) (call : FieldOptions) :
    mappingFragment dialect .filter call fields = .ok .empty := by
  rw [mappingFragment, nothing]
  rfl

/-! ## Negations -/

/-- The options without their negation. -/
def FieldOptions.affirmed (options : FieldOptions) : FieldOptions := { options with negated := false }

theorem FieldOptions.affirmed_merge (outer inner : FieldOptions) :
    (outer.merge inner).affirmed = outer.affirmed.merge inner.affirmed := rfl

namespace Input

/-- The input without the negations of the options it holds. -/
def affirmed : Input → Input
  | .overridden input options => .overridden input.affirmed options.affirmed
  | other => other

/-- Whether the options of a call, with those that an input holds, negate the text of the input as
a whole.  A mapping has them negate each of its fields. -/
def negatesText : Input → FieldOptions → Bool
  | .overridden input options, call => input.negatesText (call.merge options)
  | .mapping _, _ => false
  | _, call => call.negated

/-- An input that is blank without negations is blank with them, or is negated as a whole. -/
theorem conform_of_blank {dialect : Dialect} {f : Fragment} (blank : f.isBlank = true) :
    ∀ (input : Input) (call : FieldOptions),
      input.affirmed.conform dialect .filter call.affirmed = .ok f →
        input.conform dialect .filter call = .ok (if input.negatesText call then f.negate else f)
  | .overridden input options, call, conformed => by
    simp only [affirmed, conform] at conformed
    rw [← FieldOptions.affirmed_merge] at conformed
    simp only [conform, negatesText]
    exact conform_of_blank blank input (call.merge options) conformed
  | .literal sql, call, conformed | .fragment g, call, conformed => by
    simp only [affirmed, conform] at conformed
    cases conformed
    simp only [conform, negatesText]
    rfl
  | .subquery query, call, conformed => by
    simp only [affirmed, conform] at conformed
    obtain ⟨statement, built, conformed⟩ := exists_of_bind_eq_ok conformed
    cases conformed
    simp only [conform, negatesText, built]
    rfl
  | .mapping fields, call, conformed => by
    simp only [affirmed, conform] at conformed
    by_cases nothing : fields.entries = []
    · have empty := conformed.symm.trans (mappingFragment_of_empty nothing dialect call.affirmed)
      cases empty
      simp only [conform, negatesText]
      exact mappingFragment_of_empty nothing dialect call
    · have visible := isBlank_mappingFragment conformed nothing
      simp [blank] at visible
  | .id n, call, conformed | .condition field comparator value, call, conformed => by
    simp only [affirmed, conform] at conformed
    have visible := isBlank_fieldFragment conformed
    simp [blank] at visible
  | .rows tuples, call, conformed => by
    simp only [affirmed, conform] at conformed
    cases conformed

end Input

/-! ## Longer conditions -/

namespace Fragment

theorem length_append (f : Fragment) {g : Fragment} (given : g.sql.isEmpty = false) (separator : String) :
    (f.append g separator).sql.length =
      f.sql.length + (if f.sql.isEmpty then 0 else separator.length) + g.sql.length := by
  unfold append
  rw [if_neg (by simp [given])]
  split
  · rename_i nothing
    simp [String.isEmpty_iff.mp nothing]
  · simp

theorem length_lt_append (f : Fragment) {g : Fragment} (given : g.sql.isEmpty = false)
    (separator : String) : f.sql.length < (f.append g separator).sql.length := by
  have positive : g.sql.length ≠ 0 := by simpa using given
  rw [f.length_append given]
  omega

theorem length_append_lt_append (f : Fragment) {g h : Fragment} (given : g.sql.isEmpty = false)
    (longer : g.sql.length < h.sql.length) (separator : String) :
    (f.append g separator).sql.length < (f.append h separator).sql.length := by
  have givenToo : h.sql.isEmpty = false := by
    have positive : h.sql.length ≠ 0 := by omega
    simpa using positive
  rw [f.length_append given, f.length_append givenToo]
  omega

theorem sql_empty_append (f : Fragment) (separator : String) :
    (empty.append f separator).sql = f.sql := by
  unfold append
  split
  · rename_i nothing
    exact (String.isEmpty_iff.mp nothing).symm
  · rfl

theorem join_append_singleton (combinator : Combinator) (fragments : List Fragment) (f : Fragment) :
    join combinator (fragments ++ [f]) = (join combinator fragments).append f combinator.text := by
  simp [join]

end Fragment

namespace Draft

/-- An open group that has conditions is put behind the closed ones. -/
theorem consolidated_of_grouping {d : Draft} {g : Grouping} (grouping : d.grouping = some g)
    (given : d.conditions ≠ []) :
    d.consolidated = (Fragment.empty.append g.fragment g.connective.combinator.text).append
      (Fragment.join .and d.conditions).parenthesize g.connective.combinator.text := by
  rw [consolidated, grouping, groupedConditions, grouping]
  simp only
  rw [if_neg (by simpa using given)]
  rfl

/-- One more condition makes the text of all conditions longer. -/
theorem length_consolidated_lt {d d' : Draft} {f : Fragment} (given : f.sql.isEmpty = false)
    (conditions : d'.conditions = d.conditions ++ [f]) (grouping : d'.grouping = d.grouping) :
    d.consolidated.sql.length < d'.consolidated.sql.length := by
  have longer := (Fragment.join .and d.conditions).length_lt_append given Combinator.and.text
  rw [← Fragment.join_append_singleton, ← conditions] at longer
  cases closed : d.grouping with
  | none =>
    rw [closed] at grouping
    simpa only [consolidated, closed, grouping] using longer
  | some g =>
    rw [closed] at grouping
    rw [consolidated_of_grouping grouping (by simp [conditions])]
    by_cases nothing : d.conditions = []
    · have before : d.consolidated = g.fragment := by simp [consolidated, closed, nothing]
      rw [before, ← g.fragment.sql_empty_append g.connective.combinator.text]
      exact Fragment.length_lt_append _ (Fragment.isEmpty_parenthesize _) _
    · rw [consolidated_of_grouping closed nothing]
      refine Fragment.length_append_lt_append _ (Fragment.isEmpty_parenthesize _) ?_ _
      simpa [Fragment.parenthesize] using longer

end Draft

/-! ## Blank conditions of a query -/

namespace Draft

variable {d : Draft} {f : Fragment}

theorem addCondition_of_refused (refused : d.error ≠ none) (condition : Except AssemblyError Fragment) :
    d.addCondition condition = d := by
  obtain ⟨e, error⟩ := Option.ne_none_iff_exists'.mp refused
  simp only [addCondition, accept, error]

theorem addCondition_of_blank (blank : f.isBlank = true) : d.addCondition (.ok f) = d := by
  simp only [addCondition, accept, blank, if_true]
  split <;> rfl

theorem addCondition_of_visible (fine : d.error = none) (visible : f.isBlank = false) :
    d.addCondition (.ok f) = { d with conditions := d.conditions ++ [f] } := by
  simp [addCondition, accept, fine, visible]

end Draft

/-- **Only a negation around its whole text keeps a blank condition.**  A condition that is blank but
for its negations leaves the draft of a query as it is, unless they are put around its text as a whole
and no error is present.  Then the negated blank is a condition like any other: it is in the text of
all conditions, and it guards the statement. -/
theorem Query.filter_blank (query : Query) (input : Input) (options : FieldOptions) {f : Fragment}
    (conformed : input.affirmed.conform query.dialect .filter options.affirmed = .ok f)
    (blank : f.isBlank = true) :
    let after := (query.extend [.filter input options]).draft
    (query.draft.error ≠ none ∨ input.negatesText options = false → after = query.draft) ∧
      (query.draft.error = none → input.negatesText options = true →
        after.conditions = query.draft.conditions ++ [f.negate] ∧
          after.consolidated ≠ query.draft.consolidated ∧
          after.hasConditions = true ∧ after.isGuarded = true) := by
  intro after
  have negated := Input.conform_of_blank blank input options conformed
  have made : after = query.draft.addCondition (.ok (if input.negatesText options then f.negate else f)) := by
    simp only [after, draft_extend, Step.applyAll, Step.apply, dialect_draft, negated]
  refine ⟨?_, fun fine whole => ?_⟩
  · rintro (refused | single)
    · exact made.trans (Draft.addCondition_of_refused refused _)
    · rw [made, single]
      exact Draft.addCondition_of_blank blank
  · rw [whole, if_pos rfl, Draft.addCondition_of_visible fine f.isBlank_negate] at made
    have conditions : after.conditions = query.draft.conditions ++ [f.negate] := by rw [made]
    have grouping : after.grouping = query.draft.grouping := by rw [made]
    have present : after.hasConditions = true := by simp [Draft.hasConditions, conditions]
    refine ⟨conditions, fun same => ?_, present, by simp [Draft.isGuarded, present]⟩
    have visible := Fragment.isEmpty_of_isBlank f.isBlank_negate
    have longer := Draft.length_consolidated_lt visible conditions grouping
    rw [same] at longer
    exact Nat.lt_irrefl _ longer

/-- A blank text under a negation is kept, an empty mapping under the same options is not. -/
theorem Query.filter_blank_overridden :
    let query : Query := .mk .mysql [.setTable "t", .filter (.id 7) {}, .regroup .or]
    let text : Input := .overridden (.literal " \t") { negated := true }
    let mapping : Input := .overridden (.mapping .empty) { negated := true }
    (query.extend [.filter text { raw := true }]).draft.conditions = [⟨"NOT (  \t )", []⟩] ∧
      (query.extend [.filter text { raw := true }]).draft.consolidated ≠ query.draft.consolidated ∧
      (query.extend [.filter mapping { raw := true }]).draft = query.draft := by
  intro query text mapping
  obtain ⟨conditions, longer, -, -⟩ :=
    (Query.filter_blank query text { raw := true } (f := .raw " \t") rfl (by decide)).2
      (by decide +kernel) rfl
  have dropped :=
    (Query.filter_blank query mapping { raw := true } (f := .empty) rfl (by decide)).1 (.inr rfl)
  exact ⟨conditions.trans (by decide +kernel), longer, dropped⟩

/-- A blank text that is negated lets a delete of all rows through, which is refused without it. -/
theorem Query.filter_blank_releases :
    let query : Query := .mk .generic [.setTable "t"]
    let negated : Query := query.extend [.filterNot (.literal "")]
    (Input.literal "").conform .generic .filter {} = .ok .empty ∧
      query.draft.hasConditions = false ∧ negated.draft.hasConditions = true ∧
      query.draft.consolidated = .empty ∧ negated.draft.consolidated = .raw "NOT (  )" ∧
      (query.extend [.delete]).build = .error .unguardedDelete ∧
      (negated.extend [.delete]).build = .ok ⟨.delete, .raw "DELETE FROM \"t\"\nWHERE NOT (  )"⟩ := by
  decide +kernel

end SqlAssembly
