import SqlAssembly.Proofs.Fragment.Congruence
import SqlAssembly.Proofs.Query.Guard

/-! # The conditions that a query collects

Most steps have nothing to do with conditions.  Those that have add one, unless it is
blank, or close the group that is open, so the conditions of a draft that was not refused
follow from the *calls* that the steps make, in order.

* `Query.calls`, `Query.conditions`, `Query.havings` — the calls of a query, and the
  conditions on rows and on groups of rows that it adds.
* `Step.accepted` — what a step does that is not refused.
* `Query.collected` — the conditions of a draft follow from the calls of its query.
* `Fragment.join_eq_listed` — conditions are joined by writing them in a row.
-/

namespace SqlAssembly

/-! ## Joined fragments -/

namespace Fragment

theorem isEmpty_of_isBlank {f : Fragment} (visible : f.isBlank = false) :
    f.sql.isEmpty = false := by
  rw [← Bool.not_eq_true, String.isEmpty_iff]
  intro nothing
  rw [isBlank, nothing] at visible
  cases visible

theorem isEmpty_parenthesize (f : Fragment) : f.parenthesize.sql.isEmpty = false :=
  isEmpty_of_isBlank (isBlank_parenthesize f)

theorem empty_append {f : Fragment} (given : f.sql.isEmpty = false) (separator : String) :
    empty.append f separator = f := by
  rw [append, if_neg (by simp [given])]
  rfl

theorem append_of_nonempty {f g : Fragment} (left : f.sql.isEmpty = false)
    (right : g.sql.isEmpty = false) (separator : String) :
    f.append g separator = f ++ raw separator ++ g := by
  rw [append_eq, if_neg (by simp [left, right])]

/-- Fragments that are not empty are joined by writing them in a row with the separator between
any two. -/
theorem join_eq_listed {combinator : Combinator} {fragments : List Fragment}
    (nonempty : ∀ f ∈ fragments, f.sql.isEmpty = false) :
    join combinator fragments = listed combinator.text fragments := by
  -- the fold has joined the fragments in front of `rest` to `f`
  have folded (f : Fragment) (rest : List Fragment) (begun : f.sql.isEmpty = false)
      (nonempty : ∀ g ∈ rest, g.sql.isEmpty = false) :
      rest.foldl (fun joined g => joined.append g combinator.text) f =
        listed combinator.text (f :: rest) := by
    induction rest generalizing f with
    | nil => rw [List.foldl_nil, listed_singleton]
    | cons g rest inductionHypothesis =>
      rw [List.forall_mem_cons] at nonempty
      obtain ⟨next, later⟩ := nonempty
      rw [List.foldl_cons, inductionHypothesis _ (isEmpty_append begun g _) later,
        append_of_nonempty begun next, concat_raw_concat]
      simp only [listed, List.map_cons, List.flatMap_cons, List.append_assoc]
      cases rest <;> simp [String.intercalate_cons_cons, String.append_assoc]
  cases fragments with
  | nil => rfl
  | cons f rest =>
    rw [List.forall_mem_cons] at nonempty
    obtain ⟨first, later⟩ := nonempty
    rw [join, List.foldl_cons, empty_append first, folded f rest first later]

end Fragment

/-! ## Calls -/

/-- What a step does to the conditions on rows. -/
inductive ConditionCall where
  | condition (f : Fragment)
  | regroup (connective : Connective)

namespace ConditionCall

/-- The condition that a call adds, if it does not close a group. -/
def condition? : ConditionCall → Option Fragment
  | .condition f => some f
  | .regroup _ => none

def apply (d : Draft) : ConditionCall → Draft
  | .condition f => { d with conditions := d.conditions ++ [f] }
  | .regroup connective =>
    { d with
      conditions := []
      grouping := (d.closedGroups connective).map (Draft.reconnect connective) }

end ConditionCall

/-- The condition that an input gives, unless it is refused or blank. -/
def Input.condition? (dialect : Dialect) (clause : Clause) (input : Input) (options : FieldOptions) :
    Option Fragment :=
  match input.conform dialect clause options with
  | .ok f => if f.isBlank then none else some f
  | .error _ => none

namespace Step

def call? (dialect : Dialect) : Step → Option ConditionCall
  | .filter input options => (input.condition? dialect .filter options).map .condition
  | .regroup connective => some (.regroup connective)
  | _ => none

/-- The condition on groups of rows that a step adds, if any. -/
def having? (dialect : Dialect) : Step → Option Fragment
  | .having input => input.condition? dialect .having {}
  | _ => none

end Step

namespace Query

def calls (query : Query) : List ConditionCall := query.steps.filterMap (Step.call? query.dialect)

def conditions (query : Query) : List Fragment := query.calls.filterMap ConditionCall.condition?

def havings (query : Query) : List Fragment := query.steps.filterMap (Step.having? query.dialect)

end Query

theorem Input.isBlank_of_condition? {dialect : Dialect} {clause : Clause} {input : Input}
    {options : FieldOptions} {f : Fragment}
    (given : input.condition? dialect clause options = some f) : f.isBlank = false := by
  unfold Input.condition? at given
  split at given
  · split at given
    · cases given
    · rename_i visible
      cases given
      simpa using visible
  · cases given

namespace Query

variable {query : Query} {f : Fragment}

theorem isBlank_conditions (member : f ∈ query.conditions) : f.isBlank = false := by
  obtain ⟨call, made, known⟩ := List.mem_filterMap.mp member
  obtain ⟨step, -, calls⟩ := List.mem_filterMap.mp made
  cases step with
  | filter input options =>
    obtain ⟨g, given, rfl⟩ := Option.map_eq_some_iff.mp calls
    cases known
    exact Input.isBlank_of_condition? given
  | regroup connective =>
    cases calls
    cases known
  | _ => cases calls

theorem isBlank_havings (member : f ∈ query.havings) : f.isBlank = false := by
  obtain ⟨step, -, given⟩ := List.mem_filterMap.mp member
  cases step with
  | having input => exact Input.isBlank_of_condition? given
  | _ => cases given

end Query

/-! ## Steps that are not refused -/

/-- The draft with nothing but its conditions on rows. -/
def Draft.collected (d : Draft) : Draft :=
  { Draft.start d.dialect with conditions := d.conditions, grouping := d.grouping }

theorem Draft.consolidated_collected (d : Draft) : d.collected.consolidated = d.consolidated := rfl

/-- A change that leaves no error is made on a draft without one, and with a result. -/
theorem Draft.accept_eq_of_error_eq_none {α : Type} {d : Draft} {result : Except AssemblyError α}
    {change : α → Draft} (fine : (d.accept result change).error = none) :
    d.error = none ∧ ∃ a, result = .ok a ∧ d.accept result change = change a := by
  unfold accept at fine ⊢
  cases error : d.error with
  | some e => simp [error] at fine
  | none =>
    cases result with
    | error e => simp [error] at fine
    | ok a => exact ⟨rfl, a, rfl, rfl⟩

/-- What a step does to the conditions of a draft that it does not refuse. -/
structure Step.Accepted (step : Step) (d d' : Draft) : Prop where
  error : d.error = none
  collected : d'.collected = ((step.call? d.dialect).elim d.collected (ConditionCall.apply d.collected))
  having : d'.having = d.having ++ (step.having? d.dialect).toList

theorem Step.Accepted.dialect {step : Step} {d d' : Draft} (accepted : step.Accepted d d') :
    d'.dialect = d.dialect := by
  have same := congrArg Draft.dialect accepted.collected
  cases call : step.call? d.dialect with
  | none => rwa [call] at same
  | some c =>
    rw [call] at same
    cases c <;> exact same

/-- Changes that may be refused and have nothing to do with conditions. -/
theorem Step.accepted_accept {α : Type} {step : Step} {d : Draft} {result : Except AssemblyError α}
    {change : α → Draft} (noCall : step.call? d.dialect = none)
    (noHaving : step.having? d.dialect = none) (fine : (d.accept result change).error = none)
    (collected : ∀ a, (change a).collected = d.collected) (having : ∀ a, (change a).having = d.having) :
    step.Accepted d (d.accept result change) := by
  obtain ⟨error, a, -, changed⟩ := Draft.accept_eq_of_error_eq_none fine
  refine ⟨error, ?_, ?_⟩
  · rw [changed, collected a, noCall]
    rfl
  · rw [changed, having a, noHaving, Option.toList_none, List.append_nil]

theorem Step.accepted {step : Step} {d : Draft} (fine : (step.apply d).error = none) :
    step.Accepted d (step.apply d) := by
  cases step with
  | filter input options =>
    simp only [Step.apply, Draft.addCondition] at fine ⊢
    obtain ⟨error, f, conformed, changed⟩ := Draft.accept_eq_of_error_eq_none fine
    rw [changed]
    refine ⟨error, ?_, ?_⟩
    · simp only [Step.call?, Input.condition?, conformed]
      split <;> rfl
    · simp only [Step.having?, Option.toList_none, List.append_nil]
      split <;> rfl
  | having input =>
    simp only [Step.apply, Draft.addHaving] at fine ⊢
    obtain ⟨error, f, conformed, changed⟩ := Draft.accept_eq_of_error_eq_none fine
    rw [changed]
    refine ⟨error, ?_, ?_⟩
    · simp only [Step.call?]
      split <;> rfl
    · simp only [Step.having?, Input.condition?, conformed]
      split
      · simp
      · rfl
  | regroup connective =>
    simp only [Step.apply, Draft.regroup] at fine ⊢
    obtain ⟨error, -, -, changed⟩ := Draft.accept_eq_of_error_eq_none fine
    rw [changed]
    exact ⟨error, rfl, (List.append_nil d.having).symm⟩
  | addTable token =>
    simp only [Step.apply, Draft.addTable, Draft.setTable] at fine ⊢
    split at fine <;> exact ⟨fine, rfl, (List.append_nil d.having).symm⟩
  | upsert rows changes =>
    simp only [Step.apply] at fine ⊢
    -- two changes in a row, of which the second is made on what the first gave
    generalize changes.conform d.dialect .update {} = assignment at fine ⊢
    generalize rows.conform d.dialect .insert {} = insertion at fine ⊢
    obtain ⟨assigned, f, -, inserted⟩ := Draft.accept_eq_of_error_eq_none fine
    obtain ⟨error, g, -, changed⟩ := Draft.accept_eq_of_error_eq_none assigned
    simp only [Draft.setInsertion, Draft.setAssignment] at inserted changed ⊢
    rw [inserted, changed]
    exact ⟨error, rfl, (List.append_nil d.having).symm⟩
  | join target kind on =>
    cases on <;>
    · simp only [Step.apply, Draft.addJoin] at fine ⊢
      exact accepted_accept rfl rfl fine (fun _ => rfl) fun _ => rfl
  | refuse | setSubquery | joinRaw | lock | insert | replace | insertIgnore | update =>
    simp only [Step.apply, Draft.refuse, Draft.setSubquery, Draft.addJoin, Draft.setLock,
      Draft.setInsertion, Draft.setAssignment] at fine ⊢
    exact accepted_accept rfl rfl fine (fun _ => rfl) fun _ => rfl
  | select | setTable | named | order | group | limit | offset | risky | delete =>
    simp only [Step.apply, Draft.select, Draft.setTable] at fine ⊢
    exact ⟨fine, rfl, (List.append_nil d.having).symm⟩

theorem Step.accepted_applyAll {steps : List Step} {d : Draft}
    (fine : (Step.applyAll steps d).error = none) :
    d.error = none ∧
      (Step.applyAll steps d).collected =
        (steps.filterMap (Step.call? d.dialect)).foldl ConditionCall.apply d.collected ∧
      (Step.applyAll steps d).having = d.having ++ steps.filterMap (Step.having? d.dialect) := by
  induction steps generalizing d with
  | nil =>
    simp only [Step.applyAll] at fine ⊢
    exact ⟨fine, rfl, (List.append_nil d.having).symm⟩
  | cons step steps inductionHypothesis =>
    simp only [Step.applyAll] at fine ⊢
    obtain ⟨later, collected, having⟩ := inductionHypothesis fine
    have accepted := Step.accepted later
    refine ⟨accepted.error, ?_, ?_⟩
    · rw [collected, accepted.collected, accepted.dialect, List.filterMap_cons]
      cases step.call? d.dialect <;> rfl
    · rw [having, accepted.having, accepted.dialect, List.filterMap_cons, List.append_assoc]
      cases step.having? d.dialect <;> rfl

theorem Query.collected {query : Query} (fine : query.draft.error = none) :
    query.draft.collected = query.calls.foldl ConditionCall.apply (Draft.start query.dialect) ∧
      query.draft.having = query.havings := by
  obtain ⟨dialect, steps⟩ := query
  simp only [Query.draft] at fine ⊢
  obtain ⟨-, collected, having⟩ := Step.accepted_applyAll fine
  exact ⟨collected, having⟩

/-! ## Statements -/

theorem Draft.error_eq_none_of_build {d : Draft} {s : Statement} (built : d.build = .ok s) :
    d.error = none := by
  unfold build at built
  split at built
  · cases built
  · assumption

end SqlAssembly
