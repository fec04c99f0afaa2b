import SqlAssembly.Proofs.Fragment.Within
import SqlAssembly.Proofs.Query.Calls

/-! # No condition is lost

However conditions are grouped, the text of all of them has the text of each, and their
parameters stand in it in the order in which the conditions came.  Closing a group moves
its conditions from one place of a draft to another, so both facts are said of the closed
groups and the open one together.

* `Draft.params_consolidated`, `Draft.Has` — what the two places hold between them.
* `Query.params_consolidated`, `Query.isWithin_consolidated` — the conditions of a query.
-/

namespace SqlAssembly

/-! ## Parameters -/

namespace Fragment

theorem params_separated (f g : Fragment) (separator : String) :
    (f.append g separator).params = f.params ++ g.params := by
  unfold append
  split
  · rfl
  · split <;> rfl

theorem params_join (combinator : Combinator) (fragments : List Fragment) :
    (join combinator fragments).params = fragments.flatMap params := by
  have folded (f : Fragment) :
      (fragments.foldl (fun joined g => joined.append g combinator.text) f).params =
        f.params ++ fragments.flatMap params := by
    induction fragments generalizing f with
    | nil => simp
    | cons g rest inductionHypothesis =>
      rw [List.foldl_cons, inductionHypothesis, params_separated, List.flatMap_cons, List.append_assoc]
  exact folded empty

end Fragment

def Draft.closedParams (d : Draft) : List Scalar := (d.grouping.map fun g => g.fragment.params).getD []

namespace Draft

theorem params_groupedConditions (d : Draft) :
    d.groupedConditions.params = d.closedParams ++ d.conditions.flatMap Fragment.params := by
  have current : (Fragment.join .and d.conditions).parenthesize.params =
      d.conditions.flatMap Fragment.params := Fragment.params_join .and d.conditions
  unfold groupedConditions closedParams
  cases d.grouping with
  | none => exact current
  | some g => simp [Fragment.params_join, current]

theorem params_consolidated (d : Draft) :
    d.consolidated.params = d.closedParams ++ d.conditions.flatMap Fragment.params := by
  unfold consolidated
  split
  · rename_i none
    rw [Fragment.params_join, closedParams, none]
    rfl
  · rename_i g some
    split
    · rename_i nothing
      rw [List.isEmpty_iff.mp nothing, closedParams, some]
      simp
    · exact d.params_groupedConditions

/-- Closing a group moves its parameters behind those of the closed ones. -/
theorem closedParams_regroup (d : Draft) (connective : Connective) :
    (ConditionCall.apply d (.regroup connective)).closedParams =
      d.closedParams ++ d.conditions.flatMap Fragment.params := by
  have kept (g : Grouping) : (reconnect connective g).fragment.params = g.fragment.params := by
    unfold reconnect
    split <;> rfl
  have closed : ((d.closedGroups connective).map fun g => g.fragment.params).getD [] =
      d.closedParams ++ d.conditions.flatMap Fragment.params := by
    unfold closedGroups
    split
    · rename_i nothing
      rw [List.isEmpty_iff.mp nothing, closedParams]
      simp
    · rw [← params_groupedConditions]
      split <;> rfl
  rw [← closed, ConditionCall.apply, closedParams, Option.map_map]
  congr 2
  funext g
  exact kept g

end Draft

theorem ConditionCall.params_foldl (calls : List ConditionCall) (d : Draft) :
    (calls.foldl apply d).consolidated.params =
      d.consolidated.params ++ (calls.filterMap condition?).flatMap Fragment.params := by
  induction calls generalizing d with
  | nil => simp
  | cons call calls inductionHypothesis =>
    rw [List.foldl_cons, inductionHypothesis]
    cases call with
    | condition f =>
      simp only [Draft.params_consolidated, apply, Draft.closedParams, condition?,
        List.filterMap_cons, List.flatMap_append, List.flatMap_cons, List.flatMap_nil,
        List.append_nil, List.append_assoc]
    | regroup connective =>
      have none : (.regroup connective :: calls).filterMap condition? = calls.filterMap condition? := rfl
      rw [none, Draft.params_consolidated, Draft.closedParams_regroup, ← Draft.params_consolidated]
      simp [apply]

theorem Query.params_consolidated {query : Query} (fine : query.draft.error = none) :
    query.draft.consolidated.params = query.conditions.flatMap Fragment.params := by
  rw [← Draft.consolidated_collected, (Query.collected fine).1, ConditionCall.params_foldl]
  rfl

/-! ## Texts -/

namespace Draft

/-- The text of a condition stands in a draft: in its closed groups, or as one of the open group. -/
def Has (d : Draft) (f : Fragment) : Prop :=
  (∃ g ∈ d.grouping, Text.IsWithin f.sql g.fragment.sql) ∨ f ∈ d.conditions

variable {d : Draft} {f : Fragment}

theorem has_iff_of_none (none : d.grouping = none) : d.Has f ↔ f ∈ d.conditions := by
  simp [Has, none]

theorem has_iff_of_some {g : Grouping} (some : d.grouping = some g) :
    d.Has f ↔ Text.IsWithin f.sql g.fragment.sql ∨ f ∈ d.conditions := by
  simp [Has, some]

theorem Has.isWithin_groupedConditions (has : d.Has f) :
    Text.IsWithin f.sql d.groupedConditions.sql := by
  have current (member : f ∈ d.conditions) :
      Text.IsWithin f.sql (Fragment.join .and d.conditions).parenthesize.sql :=
    (Fragment.isWithin_join member).trans (Fragment.isWithin_parenthesize _)
  unfold groupedConditions
  cases given : d.grouping with
  | none => exact current ((has_iff_of_none given).mp has)
  | some g =>
    rcases (has_iff_of_some given).mp has with within | member
    · exact within.trans (Fragment.isWithin_join List.mem_cons_self)
    · exact (current member).trans (Fragment.isWithin_join (by simp))

theorem Has.isWithin_consolidated (has : d.Has f) : Text.IsWithin f.sql d.consolidated.sql := by
  have grouped := has.isWithin_groupedConditions
  unfold consolidated
  cases given : d.grouping with
  | none => exact Fragment.isWithin_join ((has_iff_of_none given).mp has)
  | some g =>
    simp only
    split
    · rename_i nothing
      simpa [List.isEmpty_iff.mp nothing] using (has_iff_of_some given).mp has
    · exact grouped

theorem Has.regroup (has : d.Has f) (connective : Connective) :
    (ConditionCall.apply d (.regroup connective)).Has f := by
  have kept (g : Grouping) : Text.IsWithin g.fragment.sql (reconnect connective g).fragment.sql := by
    unfold reconnect
    split
    · exact Fragment.isWithin_parenthesize g.fragment
    · exact .refl g.fragment.sql
  have closed : ∃ g ∈ d.closedGroups connective, Text.IsWithin f.sql g.fragment.sql := by
    have grouped := has.isWithin_groupedConditions
    unfold closedGroups
    split
    · rename_i nothing
      simpa [Has, List.isEmpty_iff.mp nothing] using has
    · split <;> exact ⟨_, rfl, grouped⟩
  obtain ⟨g, member, within⟩ := closed
  exact .inl ⟨reconnect connective g, Option.mem_map_of_mem _ member, within.trans (kept g)⟩

theorem Has.apply (has : d.Has f) (call : ConditionCall) : (ConditionCall.apply d call).Has f := by
  cases call with
  | condition g => exact has.imp_right fun member => List.mem_append_left [g] member
  | regroup connective => exact has.regroup connective

theorem has_foldl {calls : List ConditionCall}
    (given : d.Has f ∨ f ∈ calls.filterMap ConditionCall.condition?) :
    (calls.foldl ConditionCall.apply d).Has f := by
  induction calls generalizing d with
  | nil => simpa using given
  | cons call calls inductionHypothesis =>
    refine inductionHypothesis ?_
    rcases given with has | member
    · exact .inl (has.apply call)
    · cases call with
      | condition g =>
        rcases List.mem_cons.mp member with rfl | later
        · exact .inl (.inr (List.mem_append_right _ List.mem_cons_self))
        · exact .inr later
      | regroup connective => exact .inr member

end Draft

theorem Query.isWithin_consolidated {query : Query} (fine : query.draft.error = none) {f : Fragment}
    (member : f ∈ query.conditions) : Text.IsWithin f.sql query.draft.consolidated.sql := by
  rw [← Draft.consolidated_collected, (Query.collected fine).1]
  exact (Draft.has_foldl (.inr member)).isWithin_consolidated

/-- A query with a condition has a text of conditions. -/
theorem Query.isBlank_consolidated {query : Query} (fine : query.draft.error = none)
    (given : query.conditions ≠ []) : query.draft.consolidated.isBlank = false := by
  obtain ⟨f, member⟩ := List.exists_mem_of_ne_nil _ given
  exact (Query.isWithin_consolidated fine member).isBlank (isBlank_conditions member)

end SqlAssembly
