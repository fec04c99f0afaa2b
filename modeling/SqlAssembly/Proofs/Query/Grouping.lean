import SqlAssembly.Proofs.Condition.Conjunction
import SqlAssembly.Proofs.Query.Consolidated

/-! # Groups of conditions

The text of the closed groups grows with each group, and a count of the groups in it
decides when it has to be put in parentheses.  What it says is simpler: the groups joined
from left to right, each by the connective that was given last in front of it.

* `Query.groups` — the groups of a query, read off its calls.
* `allOf`, `leftFold` — what a group says, and what groups say together.
* `Grouping.Means` — the invariant of the closed groups.
* `Query.consolidated_leftFold` — what the text of all conditions says.
-/

namespace SqlAssembly

open Condition

/-! ## Groups -/

/-- A group of conditions, with the connective that was given last in front of it. -/
abbrev ConditionGroup := Connective × List Fragment

/-- The group whose conditions have been read, if there are any. -/
def finishedGroup (connective : Connective) (conditions : List Fragment) : List ConditionGroup :=
  if conditions.isEmpty then [] else [(connective, conditions)]

/-- The groups that calls make; `conditions` are those of the group that is open. -/
def groupsFrom (connective : Connective) (conditions : List Fragment) :
    List ConditionCall → List ConditionGroup
  | [] => finishedGroup connective conditions
  | .condition f :: calls => groupsFrom connective (conditions ++ [f]) calls
  | .regroup next :: calls => finishedGroup connective conditions ++ groupsFrom next [] calls

/-- The groups of a query: the runs of its conditions between steps that close a group, those
without conditions left out. -/
def Query.groups (query : Query) : List ConditionGroup := groupsFrom .and [] query.calls

theorem flatMap_finishedGroup (connective : Connective) (conditions : List Fragment) :
    (finishedGroup connective conditions).flatMap Prod.snd = conditions := by
  unfold finishedGroup
  split
  · rename_i nothing
    exact (List.isEmpty_iff.mp nothing).symm
  · simp

theorem flatMap_groupsFrom (connective : Connective) (conditions : List Fragment)
    (calls : List ConditionCall) :
    (groupsFrom connective conditions calls).flatMap Prod.snd =
      conditions ++ calls.filterMap ConditionCall.condition? := by
  fun_induction groupsFrom connective conditions calls with
  | case1 connective conditions => simp [flatMap_finishedGroup]
  | case2 connective conditions f calls inductionHypothesis =>
    rw [inductionHypothesis, List.append_assoc]
    rfl
  | case3 connective conditions next calls inductionHypothesis =>
    rw [List.flatMap_append, flatMap_finishedGroup, inductionHypothesis, List.nil_append]
    rfl

theorem Query.flatMap_groups (query : Query) : query.groups.flatMap Prod.snd = query.conditions :=
  flatMap_groupsFrom .and [] query.calls

/-! ## What groups say -/

def allOf (conditions : List Fragment) : Meaning :=
  .joinAll .and (conditions.map fun f => meaning f.sql)

/-- What a further group adds to what the groups in front of it say, if there are any. -/
def joinGroup (joined : Option Meaning) (group : ConditionGroup) : Option Meaning :=
  match joined with
  | none => some (allOf group.2)
  | some m => some (m.join group.1 (allOf group.2))

/-- What groups say: they are joined from left to right. -/
def leftFold (first : Meaning) (groups : List ConditionGroup) : Meaning :=
  groups.foldl (fun m group => m.join group.1 (allOf group.2)) first

theorem foldl_joinGroup (first : Meaning) (groups : List ConditionGroup) :
    groups.foldl joinGroup (some first) = some (leftFold first groups) := by
  induction groups generalizing first with
  | nil => rfl
  | cons group groups inductionHypothesis => exact inductionHypothesis _

theorem foldl_finishedGroup (closed : Option Meaning) (connective : Connective)
    {conditions : List Fragment} (nonempty : conditions ≠ []) :
    (finishedGroup connective conditions).foldl joinGroup closed =
      joinGroup closed (connective, conditions) := by
  rw [finishedGroup, if_neg (by simpa using nonempty)]
  rfl

/-! ## The invariant -/

/-- A condition that no AND next to it can cut. -/
structure IsTight (f : Fragment) : Prop where
  readable : isReadable f.sql = true
  hasTopLevelOr : hasTopLevelOr f.sql = false

/-- What closed groups say.  They have an OR outside all parentheses only while the connective is
OR and there are several of them. -/
structure Grouping.Means (g : Grouping) (m : Meaning) : Prop where
  begun : g.fragment.sql.isEmpty = false
  groups : 1 ≤ g.groups
  reads : ∃ alternatives, Reads g.fragment.sql m alternatives ∧
    (alternatives = true → g.connective = .or ∧ 1 < g.groups)

/-- The conditions of a draft whose closed groups say something: none of them is empty, and none
can be cut. -/
structure Draft.Holds (d : Draft) (closed : Option Meaning) : Prop where
  begun : ∀ f ∈ d.conditions, f.sql.isEmpty = false
  tight : ∀ f ∈ d.conditions, IsTight f
  grouping : Option.Rel Grouping.Means d.grouping closed

/-- Changing the connective changes nothing that was said. -/
theorem Grouping.Means.reconnect {g : Grouping} {m : Meaning} (means : g.Means m)
    (connective : Connective) : (Draft.reconnect connective g).Means m := by
  obtain ⟨begun, groups, alternatives, reads, either⟩ := means
  unfold Draft.reconnect
  split
  · exact ⟨Fragment.isEmpty_parenthesize g.fragment, Nat.le_refl 1, false, reads.parenthesize, by simp⟩
  · rename_i same
    refine ⟨begun, groups, alternatives, reads, fun present => ?_⟩
    obtain ⟨isOr, several⟩ := either present
    have kept : g.connective = connective := by
      by_contra differs
      exact same ⟨several, differs⟩
    exact ⟨kept ▸ isOr, several⟩

theorem rel_map_reconnect {g : Option Grouping} {m : Option Meaning}
    (related : Option.Rel Grouping.Means g m) (connective : Connective) :
    Option.Rel Grouping.Means (g.map (Draft.reconnect connective)) m := by
  cases related with
  | none => exact .none
  | some means => exact .some (means.reconnect connective)

/-- Closed groups joined to one that is in parentheses. -/
theorem Grouping.Means.join {g : Grouping} {m n : Meaning} (means : g.Means m) {current : Fragment}
    (begun : current.sql.isEmpty = false) (reads : Reads current.sql n false) :
    Reads (Fragment.join g.connective.combinator [g.fragment, current]).sql (m.join g.connective n)
      (g.connective = .or) := by
  obtain ⟨begunToo, -, alternatives, readsToo, either⟩ := means
  have both : ∀ f ∈ [g.fragment, current], f.sql.isEmpty = false := by
    rw [List.forall_mem_cons, List.forall_mem_singleton]
    exact ⟨begunToo, begun⟩
  rw [Fragment.join_eq_listed both, Fragment.listed_cons_cons, Fragment.listed_singleton,
    Fragment.concat_raw_concat]
  cases connective : g.connective with
  | and =>
    -- closed groups with an OR of their own would have been put in parentheses
    have none : alternatives = false := by
      rw [← Bool.not_eq_true]
      intro present
      rw [connective] at either
      cases (either present).1
    exact (none ▸ readsToo).and reads
  | or => exact readsToo.or reads

namespace Draft.Holds

variable {d : Draft} {closed : Option Meaning}

theorem reads_open (holds : d.Holds closed) (nonempty : d.conditions ≠ []) :
    Reads (Fragment.join .and d.conditions).sql (allOf d.conditions) false := by
  have texts : d.conditions.map Fragment.sql ≠ [] := by simpa using nonempty
  have reads := reads_conjunction texts
    (by simpa using fun f member => ⟨(holds.tight f member).1, (holds.tight f member).2⟩)
  rw [List.map_map] at reads
  rw [Fragment.join_eq_listed holds.begun]
  exact reads

theorem reads_grouped (holds : d.Holds closed) (nonempty : d.conditions ≠ [])
    {connective : Connective} (linked : ∀ g ∈ d.grouping, g.connective = connective) :
    ∃ joined, joinGroup closed (connective, d.conditions) = some joined ∧
      Reads d.groupedConditions.sql joined (d.grouping.any fun g => g.connective = .or) := by
  have current := (holds.reads_open nonempty).parenthesize
  have grouping := holds.grouping
  unfold groupedConditions
  cases given : d.grouping with
  | none =>
    rw [given] at grouping
    cases grouping
    exact ⟨_, rfl, current⟩
  | some g =>
    rw [given] at grouping linked
    obtain rfl : g.connective = connective := linked g rfl
    cases grouping with
    | some means =>
      exact ⟨_, rfl, means.join (Fragment.isEmpty_parenthesize _) current⟩

/-- Closing the open group adds it to the groups that say something, if it has conditions. -/
theorem regroup (holds : d.Holds closed) {connective : Connective}
    (linked : ∀ g ∈ d.grouping, g.connective = connective) (next : Connective) :
    (ConditionCall.apply d (.regroup next)).Holds
      ((finishedGroup connective d.conditions).foldl joinGroup closed) := by
  refine ⟨by simp [ConditionCall.apply], by simp [ConditionCall.apply], ?_⟩
  simp only [ConditionCall.apply]
  -- reconnecting changes no meaning, so it is the groups before it that count
  refine rel_map_reconnect ?_ next
  by_cases nothing : d.conditions = []
  · simpa [closedGroups, finishedGroup, nothing] using holds.grouping
  · obtain ⟨joined, same, reads⟩ := holds.reads_grouped nothing linked
    have begun : d.groupedConditions.sql.isEmpty = false :=
      Fragment.isEmpty_of_isBlank d.isBlank_groupedConditions
    rw [foldl_finishedGroup closed connective nothing, same]
    unfold closedGroups
    rw [if_neg (by simpa using nothing)]
    have grouping := holds.grouping
    cases given : d.grouping with
    | none =>
      rw [given] at reads
      exact .some ⟨begun, Nat.le_refl 1, _, reads, by simp⟩
    | some g =>
      rw [given] at reads grouping
      cases grouping with
      | some means =>
        -- groups are counted from one, so there are several of them now
        have several : 1 < g.groups + 1 := Nat.lt_succ_of_le means.groups
        exact .some ⟨begun, by simp, _, reads, fun either => ⟨by simpa using either, several⟩⟩

theorem reads_consolidated (holds : d.Holds closed) {connective : Connective}
    (linked : ∀ g ∈ d.grouping, g.connective = connective) :
    match (finishedGroup connective d.conditions).foldl joinGroup closed with
    | none => d.consolidated.sql = ""
    | some m => ∃ alternatives, Reads d.consolidated.sql m alternatives := by
  have grouping := holds.grouping
  by_cases nothing : d.conditions = []
  · unfold consolidated
    cases given : d.grouping with
    | none =>
      rw [given] at grouping
      cases grouping
      simp [finishedGroup, nothing, Fragment.join, Fragment.empty]
    | some g =>
      rw [given] at grouping
      cases grouping with
      | some means =>
        obtain ⟨alternatives, reads, -⟩ := means.reads
        simp only [finishedGroup, nothing, List.isEmpty_nil, if_true, List.foldl_nil]
        exact ⟨alternatives, reads⟩
  · obtain ⟨joined, same, reads⟩ := holds.reads_grouped nothing linked
    rw [foldl_finishedGroup closed connective nothing, same]
    unfold consolidated
    cases given : d.grouping with
    | none =>
      -- a group that is alone needs no parentheses
      rw [given] at grouping
      cases grouping
      cases same
      exact ⟨false, holds.reads_open nothing⟩
    | some g =>
      simp only [List.isEmpty_iff, nothing, if_false]
      exact ⟨_, reads⟩

theorem condition (holds : d.Holds closed) {f : Fragment} (begun : f.sql.isEmpty = false)
    (tight : IsTight f) : (ConditionCall.apply d (.condition f)).Holds closed where
  begun := List.forall_mem_append.mpr ⟨holds.begun, List.forall_mem_singleton.mpr begun⟩
  tight := List.forall_mem_append.mpr ⟨holds.tight, List.forall_mem_singleton.mpr tight⟩
  grouping := holds.grouping

/-- After any calls, the text of all conditions says what the groups that they make say. -/
theorem reads_foldl {calls : List ConditionCall} (holds : d.Holds closed) {connective : Connective}
    (linked : ∀ g ∈ d.grouping, g.connective = connective)
    (begun : ∀ f ∈ calls.filterMap ConditionCall.condition?, f.sql.isEmpty = false)
    (tight : ∀ f ∈ calls.filterMap ConditionCall.condition?, IsTight f) :
    match (groupsFrom connective d.conditions calls).foldl joinGroup closed with
    | none => (calls.foldl ConditionCall.apply d).consolidated.sql = ""
    | some m =>
      ∃ alternatives, Reads (calls.foldl ConditionCall.apply d).consolidated.sql m alternatives := by
  induction calls generalizing d closed connective with
  | nil => exact holds.reads_consolidated linked
  | cons call calls inductionHypothesis =>
    cases call with
    | condition f =>
      change ∀ g ∈ f :: calls.filterMap ConditionCall.condition?, g.sql.isEmpty = false at begun
      change ∀ g ∈ f :: calls.filterMap ConditionCall.condition?, IsTight g at tight
      rw [List.forall_mem_cons] at begun tight
      exact inductionHypothesis (holds.condition begun.1 tight.1) linked begun.2 tight.2
    | regroup next =>
      have relinked : ∀ g ∈ (ConditionCall.apply d (.regroup next)).grouping, g.connective = next := by
        intro g member
        obtain ⟨g', -, rfl⟩ := Option.map_eq_some_iff.mp member
        unfold reconnect
        split <;> rfl
      rw [groupsFrom, List.foldl_append]
      exact inductionHypothesis (holds.regroup linked next) relinked begun tight

end Draft.Holds

/-! ## The groups of a query -/

/-- **Groups are joined from left to right.**  The parameters of all conditions come in the order of
the conditions.  Where none of these can be cut by an AND, the text says what the groups say, each
joined to those in front of it by the connective that was given last between them; without a group
it is empty. -/
theorem Query.consolidated_leftFold {query : Query} (fine : query.draft.error = none)
    (tight : ∀ f ∈ query.conditions, IsTight f) :
    query.draft.consolidated.params = query.conditions.flatMap Fragment.params ∧
      match query.groups with
      | [] => query.draft.consolidated.sql = ""
      | first :: rest =>
        isReadable query.draft.consolidated.sql = true ∧
          ∀ truth, (meaning query.draft.consolidated.sql).holds truth =
            (leftFold (allOf first.2) rest).holds truth := by
  refine ⟨Query.params_consolidated fine, ?_⟩
  have empty : (Draft.start query.dialect).Holds none :=
    ⟨by simp [Draft.start], by simp [Draft.start], .none⟩
  have unlinked : ∀ g ∈ (Draft.start query.dialect).grouping, g.connective = .and := by
    simp [Draft.start]
  have reads := empty.reads_foldl unlinked
    (fun f member => Fragment.isEmpty_of_isBlank (isBlank_conditions member)) tight
  rw [← (Query.collected fine).1, Draft.consolidated_collected] at reads
  change match query.groups.foldl joinGroup none with
    | none => query.draft.consolidated.sql = ""
    | some m => ∃ alternatives, Reads query.draft.consolidated.sql m alternatives at reads
  cases groups : query.groups with
  | nil =>
    rw [groups] at reads
    exact reads
  | cons first rest =>
    have joined : query.groups.foldl joinGroup none = some (leftFold (allOf first.2) rest) := by
      rw [groups, List.foldl_cons]
      exact foldl_joinGroup _ rest
    rw [joined] at reads
    obtain ⟨alternatives, reads⟩ := reads
    exact ⟨reads.readable, fun truth => by rw [reads.meaning]⟩

/-- The connective given last counts, a group without conditions leaves no trace, and two groups stay
together in front of another connective. -/
theorem Query.consolidated_leftFold_select :
    let query : Query := .mk .sqlite
      [.regroup .or, .setTable "t", .filter (.literal "a") {}, .filter (.id 7) {}, .regroup .and,
        .regroup .or, .filter (.literal "b") {}, .regroup .and, .filter (.literal "c") {}, .regroup .or]
    let text := "( ( ( a\n\tAND \"id\" = ? )\n\tOR ( b ) )\n\tAND ( c ) )"
    query.draft.consolidated = ⟨text, [.int 7]⟩ ∧
      query.groups = [(.or, [⟨"a", []⟩, ⟨"\"id\" = ?", [.int 7]⟩]), (.or, [⟨"b", []⟩]),
        (.and, [⟨"c", []⟩])] ∧
      ∀ truth, (meaning text).holds truth =
        (leftFold (allOf [⟨"a", []⟩, ⟨"\"id\" = ?", [.int 7]⟩])
          [(.or, [⟨"b", []⟩]), (.and, [⟨"c", []⟩])]).holds truth := by
  intro query text
  have consolidated : query.draft.consolidated = ⟨text, [.int 7]⟩ := rfl
  have groups : query.groups = [(.or, [⟨"a", []⟩, ⟨"\"id\" = ?", [.int 7]⟩]), (.or, [⟨"b", []⟩]),
      (.and, [⟨"c", []⟩])] := by
    unfold query
    decide +kernel
  have tight : ∀ f ∈ query.conditions, IsTight f := by
    rw [← Query.flatMap_groups, groups]
    simp only [List.flatMap_cons, List.flatMap_nil, List.cons_append, List.nil_append,
      List.forall_mem_cons, List.not_mem_nil, false_implies, implies_true, and_true]
    refine ⟨⟨?_, ?_⟩, ⟨?_, ?_⟩, ⟨?_, ?_⟩, ⟨?_, ?_⟩⟩ <;> decide
  have fine : query.draft.error = none := rfl
  obtain ⟨-, reads⟩ := Query.consolidated_leftFold fine tight
  rw [consolidated, groups] at reads
  exact ⟨consolidated, groups, reads.2⟩

end SqlAssembly
