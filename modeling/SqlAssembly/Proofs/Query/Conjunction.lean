import SqlAssembly.Proofs.Condition.Conjunction
import SqlAssembly.Proofs.Query.Consolidated
import SqlAssembly.Proofs.Query.Layout

/-! # Conditions of one group

The conditions of a group, and those on groups of rows, are written in a row with ANDs
between them.  A nested statement that is SQL text of the caller comes in parentheses, but
text and fragments come as they are: one with an OR of its own is cut off at the next AND,
and the rows that a statement touches are then more than those of which all conditions
hold.

* `Query.consolidated_of_ungrouped` — the text of conditions that are not grouped.
* `Input.reads_nested` — a nested statement of conditions is one condition.
* `asksForAll_iff` — when conditions in a row ask for each of them.
-/

namespace SqlAssembly

open Condition

/-! ## The text of conditions -/

/-- Calls that close no group add their conditions to the open one. -/
theorem ConditionCall.foldl_apply {calls : List ConditionCall}
    (ungrouped : ∀ connective, .regroup connective ∉ calls) (d : Draft) :
    calls.foldl apply d = { d with conditions := d.conditions ++ calls.filterMap condition? } := by
  induction calls generalizing d with
  | nil => simp
  | cons call calls inductionHypothesis =>
    have later : ∀ connective, .regroup connective ∉ calls := fun connective member =>
      ungrouped connective (List.mem_cons_of_mem _ member)
    cases call with
    | condition f =>
      rw [List.foldl_cons, inductionHypothesis later]
      simp [apply, condition?]
    | regroup connective => exact absurd List.mem_cons_self (ungrouped connective)

theorem Query.consolidated_of_ungrouped {query : Query} (fine : query.draft.error = none)
    (ungrouped : ∀ connective, .regroup connective ∉ query.steps) :
    query.draft.consolidated = .listed Combinator.and.text query.conditions := by
  have calls : ∀ connective, .regroup connective ∉ query.calls := by
    intro connective member
    obtain ⟨step, present, made⟩ := List.mem_filterMap.mp member
    cases step with
    | regroup other =>
      cases made
      exact ungrouped _ present
    | filter input options =>
      obtain ⟨f, -, same⟩ := Option.map_eq_some_iff.mp made
      cases same
    | _ => cases made
  have joined : query.draft.consolidated = Fragment.join .and query.conditions := by
    rw [← Draft.consolidated_collected, (Query.collected fine).1, ConditionCall.foldl_apply calls]
    rfl
  rw [joined]
  exact Fragment.join_eq_listed fun f member => Fragment.isEmpty_of_isBlank (isBlank_conditions member)

theorem Query.havingLine_draft {query : Query} (fine : query.draft.error = none)
    (given : query.havings ≠ []) :
    query.draft.havingLine = (Fragment.listed Combinator.and.text query.havings).prefixed "HAVING " := by
  rw [Draft.havingLine, (Query.collected fine).2, if_neg (by simpa using given)]
  rw [Fragment.join_eq_listed fun f member => Fragment.isEmpty_of_isBlank (isBlank_havings member)]

/-! ## Nested statements -/

/-- A nested statement of conditions says what its text says, or the contrary, and has no OR outside
its parentheses. -/
theorem Input.reads_nested {dialect : Dialect} {clause : Clause} {query : Query} {s : Statement}
    (call : FieldOptions) (built : query.build = .ok s) (raw : s.kind = .raw)
    (readable : isReadable s.sql = true) :
    ∃ f, (Input.subquery query).conform dialect clause call = .ok f ∧
      Reads f.sql (if call.negated then (meaning s.sql).not else meaning s.sql) false := by
  have nested : Reads s.nested.sql (meaning s.sql) false := by
    rw [Statement.nested, raw]
    exact (reads_of_isReadable readable).parenthesize
  refine ⟨passThrough call s.nested, ?_, ?_⟩
  · simp only [Input.conform, built]
    rfl
  · unfold passThrough
    split
    · exact nested.negate
    · exact nested

/-! ## What statements ask for -/

def conjoined (conditions : List Fragment) : String :=
  Combinator.and.text.intercalate (conditions.map Fragment.sql)

/-- The whole of some conditions asks for each of them. -/
def AsksForAll (conditions : List Fragment) : Prop :=
  IsConjunction (conjoined conditions) (conditions.map Fragment.sql)

theorem asksForAll_iff {conditions : List Fragment} (nonempty : conditions ≠ [])
    (readable : ∀ f ∈ conditions, isReadable f.sql = true) :
    isReadable (conjoined conditions) = true ∧
      (AsksForAll conditions ↔
        conditions.length ≤ 1 ∨ ∀ f ∈ conditions, hasTopLevelOr f.sql = false) := by
  have texts : conditions.map Fragment.sql ≠ [] := by simpa using nonempty
  obtain ⟨whole, iff⟩ := isConjunction_iff texts (by simpa using readable)
  refine ⟨whole, iff.trans ?_⟩
  rw [List.length_map, List.any_map, List.any_eq_false]
  simp

namespace Query

/-- **Conditions are joined as texts.**  A statement has the texts of its conditions, and a select
those of its conditions on groups of rows, in a row with ANDs between them.  This asks for all of
the conditions exactly when there is one only, or none has an OR outside all parentheses. -/
theorem build_asksForAll_iff {query : Query} {s : Statement} (built : query.build = .ok s)
    (ungrouped : ∀ connective, .regroup connective ∉ query.steps)
    (readable : ∀ f ∈ query.conditions ++ query.havings, isReadable f.sql = true) :
    (query.conditions ≠ [] → s.kind ≠ .insert →
      query.draft.Places s (conjoined query.conditions) ∧
        isReadable (conjoined query.conditions) = true ∧
        (AsksForAll query.conditions ↔ query.conditions.length ≤ 1 ∨
          ∀ f ∈ query.conditions, hasTopLevelOr f.sql = false)) ∧
    (query.havings ≠ [] → s.kind = .select →
      (∃ front, s.sql = query.draft.enclosed (front ++ "\nHAVING " ++ conjoined query.havings ++
          furtherLines [query.draft.orderLine, query.draft.limitLine, query.draft.lockLine])) ∧
        isReadable (conjoined query.havings) = true ∧
        (AsksForAll query.havings ↔ query.havings.length ≤ 1 ∨
          ∀ f ∈ query.havings, hasTopLevelOr f.sql = false)) := by
  rw [List.forall_mem_append] at readable
  obtain ⟨conditionsReadable, havingsReadable⟩ := readable
  have assembled : query.draft.build = .ok s := by rwa [← Query.build_eq]
  have fine := Draft.error_eq_none_of_build assembled
  constructor
  · intro given notInsert
    have text : query.draft.consolidated.sql = conjoined query.conditions := by
      rw [consolidated_of_ungrouped fine ungrouped]
      rfl
    have visible := Query.isBlank_consolidated fine given
    exact ⟨text ▸ Draft.places_consolidated assembled visible notInsert,
      asksForAll_iff given conditionsReadable⟩
  · intro given select
    have line := havingLine_draft fine given
    have begun : query.draft.havingLine.sql.isEmpty = false := by
      rw [line]
      exact Fragment.isEmpty_prefixed _ rfl
    obtain ⟨front, text⟩ := Draft.places_havingLine assembled select begun
    have keyword : "\n" ++ query.draft.havingLine.sql = "\nHAVING " ++ conjoined query.havings := by
      rw [line]
      change "\n" ++ ("HAVING " ++ conjoined query.havings) = _
      rw [← String.append_assoc]
      rfl
    refine ⟨⟨front, ?_⟩, asksForAll_iff given havingsReadable⟩
    rw [text, keyword, ← String.append_assoc]

/-- A delete that asks for all of its conditions: the nested statement has its OR in parentheses. -/
theorem build_asksForAll_iff_delete :
    let query : Query := .mk .generic
      [.setTable "t", .filterSubquery (.mk .generic [.filter (.literal "a = 1 OR b = 2") {}]),
        .filter (.literal "c = 3") {}, .delete]
    query.conditions.map Fragment.sql = ["( a = 1 OR b = 2 )", "c = 3"] ∧
      (∃ s, query.build = .ok s ∧ query.draft.Places s "( a = 1 OR b = 2 )\n\tAND c = 3") ∧
      AsksForAll query.conditions := by
  intro query
  have conditions : query.conditions =
      [⟨"( a = 1 OR b = 2 )", []⟩, ⟨"c = 3", []⟩] := rfl
  have built : query.build = .ok
      ⟨.delete, "DELETE FROM \"t\"\nWHERE ( a = 1 OR b = 2 )\n\tAND c = 3", []⟩ := rfl
  have readable : ∀ f ∈ query.conditions ++ query.havings, isReadable f.sql = true := by
    rw [conditions]
    decide
  obtain ⟨filtered, -⟩ := build_asksForAll_iff built (by simp [query, steps, Step.filterSubquery]) readable
  rw [conditions] at filtered
  obtain ⟨conditioned, -, exact⟩ := filtered (by simp) (by simp)
  refine ⟨rfl, ⟨_, built, conditioned⟩, ?_⟩
  rw [conditions, exact]
  decide

/-- A delete that does not: rows with `a = 1` go whatever their `c` is. -/
theorem build_not_asksForAll :
    let query : Query := .mk .generic
      [.setTable "t", .filter (.literal "a = 1 OR b = 2") {}, .filter (.literal "c = 3") {}, .delete]
    query.build = .ok ⟨.delete, "DELETE FROM \"t\"\nWHERE a = 1 OR b = 2\n\tAND c = 3", []⟩ ∧
      query.conditions.map Fragment.sql = ["a = 1 OR b = 2", "c = 3"] ∧
      ∃ truth, (meaning "a = 1 OR b = 2\n\tAND c = 3").holds truth = true ∧
        (Meaning.joinAll .and (["a = 1 OR b = 2", "c = 3"].map meaning)).holds truth = false := by
  intro query
  refine ⟨rfl, rfl, fun i _ => i = 0, ?_, ?_⟩
  · rfl
  · rfl

end Query

end SqlAssembly
