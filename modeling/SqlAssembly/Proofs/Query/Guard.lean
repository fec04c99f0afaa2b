import SqlAssembly.Proofs.Success
import SqlAssembly.Query.Assembly

/-! # Changes of all rows need permission

An update or a delete is only assembled when a condition is present or the draft is risky.
Whether a condition is *present* is asked of the lists of a draft, while whether one is
*written* depends on the text that all conditions make together.  The two agree because
no condition of a draft is blank, and no group of conditions is.

* `Draft.IsVisible` — the invariant.
* `Step.effect` — all that a step can do to the conditions.
* `Draft.IsVisible.hasConditions_iff` — conditions are present exactly when they are written.
* `Query.build_hasConditions` — the statements that this guards.
-/

namespace SqlAssembly

/-! ## Blank text -/

theorem Text.isBlank_append (s t : String) :
    Text.isBlank (s ++ t) = (Text.isBlank s && Text.isBlank t) := by
  rw [isBlank, isBlank, isBlank, String.toList_append, List.all_append]

theorem Text.isEmpty_append {s : String} (begun : s.isEmpty = false) (t : String) :
    (s ++ t).isEmpty = false := by
  rw [← Bool.not_eq_true, String.isEmpty_iff] at begun ⊢
  intro nothing
  have chars := congrArg String.toList nothing
  rw [String.toList_append, String.toList_empty, List.append_eq_nil_iff] at chars
  exact begun (String.toList_injective chars.1)

namespace Fragment

theorem isEmpty_prefixed (f : Fragment) {lead : String} (given : lead.isEmpty = false) :
    (f.prefixed lead).sql.isEmpty = false := Text.isEmpty_append given f.sql

theorem isEmpty_append {f : Fragment} (begun : f.sql.isEmpty = false) (g : Fragment)
    (separator : String) : (f.append g separator).sql.isEmpty = false := by
  unfold append
  split
  · exact begun
  · rw [if_neg (by simp [begun])]
    exact Text.isEmpty_append (Text.isEmpty_append begun separator) g.sql

theorem isBlank_append_left {f : Fragment} (visible : f.isBlank = false) (g : Fragment)
    (separator : String) : (f.append g separator).isBlank = false := by
  unfold isBlank at visible ⊢
  unfold append
  split
  · exact visible
  · split
    · rename_i nothing
      rw [String.isEmpty_iff.mp nothing] at visible
      cases visible
    · rw [Text.isBlank_append, Text.isBlank_append, visible]
      rfl

theorem isBlank_append_right (f : Fragment) {g : Fragment} (visible : g.isBlank = false)
    (separator : String) : (f.append g separator).isBlank = false := by
  unfold isBlank at visible ⊢
  unfold append
  split
  · rename_i nothing
    rw [String.isEmpty_iff.mp nothing] at visible
    cases visible
  · split
    · exact visible
    · rw [Text.isBlank_append, visible, Bool.and_false]

/-- Fragments of which one is visible are visible together. -/
theorem isBlank_join {combinator : Combinator} {fragments : List Fragment} {f : Fragment}
    (member : f ∈ fragments) (visible : f.isBlank = false) :
    (join combinator fragments).isBlank = false := by
  -- once something visible has been joined, nothing that follows takes it away
  have kept (start : Fragment) (fragments : List Fragment) (visible : start.isBlank = false) :
      (fragments.foldl (fun joined f => joined.append f combinator.text) start).isBlank = false := by
    induction fragments generalizing start with
    | nil => exact visible
    | cons g rest inductionHypothesis =>
      exact inductionHypothesis _ (isBlank_append_left visible g combinator.text)
  unfold join
  generalize empty = start
  induction fragments generalizing start with
  | nil => cases member
  | cons g rest inductionHypothesis =>
    rcases List.mem_cons.mp member with rfl | later
    · exact kept _ rest (isBlank_append_right start visible combinator.text)
    · exact inductionHypothesis later _

theorem isBlank_parenthesize (f : Fragment) : f.parenthesize.isBlank = false := by
  rw [isBlank, parenthesize, Text.isBlank_append, Text.isBlank_append]
  rfl

end Fragment

namespace Draft

/-! ## The invariant -/

/-- No condition of a draft is blank: not one of the open group, and not the closed groups. -/
structure IsVisible (d : Draft) : Prop where
  conditions : ∀ f ∈ d.conditions, f.isBlank = false
  grouping : ∀ g, d.grouping = some g → g.fragment.isBlank = false

theorem IsVisible.start (dialect : Dialect) : (Draft.start dialect).IsVisible where
  conditions _ member := nomatch member
  grouping _ none := nomatch none

theorem isBlank_groupedConditions (d : Draft) : d.groupedConditions.isBlank = false := by
  have current := Fragment.isBlank_parenthesize (Fragment.join .and d.conditions)
  unfold groupedConditions
  cases d.grouping with
  | none => exact current
  | some g =>
    exact Fragment.isBlank_join (List.mem_cons_of_mem _ List.mem_cons_self) current

/-- Conditions are present exactly when the text of all of them is not blank. -/
theorem IsVisible.hasConditions_iff {d : Draft} (visible : d.IsVisible) :
    d.hasConditions = !d.consolidated.isBlank := by
  unfold hasConditions consolidated
  cases grouping : d.grouping with
  | some g =>
    have closed := visible.grouping g grouping
    simp only
    split
    · simp [closed]
    · simp [isBlank_groupedConditions]
  | none =>
    cases conditions : d.conditions with
    | nil => rfl
    | cons f rest =>
      have first : f.isBlank = false := visible.conditions f (conditions ▸ List.mem_cons_self)
      have joined : (Fragment.join .and (f :: rest)).isBlank = false :=
        Fragment.isBlank_join List.mem_cons_self first
      simp [joined]

/-! ## What a step can do -/

/-- A change that leaves the conditions and the permission alone. -/
structure Keeps (d d' : Draft) : Prop where
  conditions : d'.conditions = d.conditions
  grouping : d'.grouping = d.grouping
  risky : d'.risky = d.risky

theorem Keeps.refl (d : Draft) : Keeps d d := ⟨rfl, rfl, rfl⟩

theorem Keeps.trans {a b c : Draft} (first : Keeps a b) (second : Keeps b c) : Keeps a c :=
  ⟨second.conditions.trans first.conditions, second.grouping.trans first.grouping,
    second.risky.trans first.risky⟩

/-- A property of drafts holds after a change that may be refused when it holds of the draft with
and without an error, and after the change. -/
theorem accept_cases {α : Type} {property : Draft → Prop} {d : Draft} {result : Except AssemblyError α}
    {change : α → Draft} (unchanged : property d) (refused : ∀ e, property { d with error := some e })
    (changed : ∀ a, property (change a)) : property (d.accept result change) := by
  unfold accept
  cases d.error with
  | some e => exact unchanged
  | none =>
    cases result with
    | ok a => exact changed a
    | error e => exact refused e

theorem Keeps.accept {α : Type} {d : Draft} (result : Except AssemblyError α) {change : α → Draft}
    (changed : ∀ a, Keeps d (change a)) : Keeps d (d.accept result change) :=
  accept_cases (.refl d) (fun _ => ⟨rfl, rfl, rfl⟩) changed

end Draft

/-- All that a step can do to the conditions of a draft and to its permission to do without. -/
inductive Step.Effect (step : Step) (d d' : Draft) : Prop where
  | kept : Draft.Keeps d d' → Step.Effect step d d'
  | added (f : Fragment) : f.isBlank = false → d'.conditions = d.conditions ++ [f] →
      d'.grouping = d.grouping → d'.risky = d.risky → Step.Effect step d d'
  | regrouped (connective : Connective) : d'.conditions = [] →
      d'.grouping = (d.closedGroups connective).map (Draft.reconnect connective) →
      d'.risky = d.risky → Step.Effect step d d'
  | permitted : step = .risky → d'.conditions = d.conditions → d'.grouping = d.grouping →
      Step.Effect step d d'

theorem Step.effect (step : Step) (d : Draft) : Step.Effect step d (step.apply d) := by
  cases step with
  | filter input options =>
    simp only [Step.apply, Draft.addCondition]
    refine Draft.accept_cases (.kept (.refl d)) (fun _ => .kept ⟨rfl, rfl, rfl⟩) fun f => ?_
    split
    · exact .kept (.refl d)
    · rename_i visible
      exact .added f (by simpa using visible) rfl rfl rfl
  | regroup connective =>
    simp only [Step.apply, Draft.regroup]
    exact Draft.accept_cases (.kept (.refl d)) (fun _ => .kept ⟨rfl, rfl, rfl⟩) fun _ =>
      .regrouped connective rfl rfl rfl
  | risky =>
    simp only [Step.apply]
    exact .permitted rfl rfl rfl
  | having input =>
    simp only [Step.apply, Draft.addHaving]
    refine .kept (.accept _ fun f => ?_)
    split <;> exact ⟨rfl, rfl, rfl⟩
  | addTable token =>
    simp only [Step.apply, Draft.addTable]
    refine .kept ?_
    split <;> exact ⟨rfl, rfl, rfl⟩
  | upsert rows changes =>
    simp only [Step.apply]
    -- two changes in a row: the assignment, then the rows
    generalize changes.conform d.dialect .update {} = assignment
    generalize rows.conform d.dialect .insert {} = insertion
    have assigned : Draft.Keeps d (d.setAssignment assignment) := .accept _ fun _ => ⟨rfl, rfl, rfl⟩
    have inserted : Draft.Keeps (d.setAssignment assignment)
        ((d.setAssignment assignment).setInsertion .upsert insertion) :=
      .accept _ fun _ => ⟨rfl, rfl, rfl⟩
    exact .kept (assigned.trans inserted)
  | join target kind on =>
    cases on <;>
    · simp only [Step.apply]
      exact .kept (.accept _ fun _ => ⟨rfl, rfl, rfl⟩)
  | refuse | setSubquery | joinRaw | lock | insert | replace | insertIgnore | update =>
    simp only [Step.apply]
    exact .kept (.accept _ fun _ => ⟨rfl, rfl, rfl⟩)
  | select | setTable | named | order | group | limit | offset | delete =>
    simp only [Step.apply]
    exact .kept ⟨rfl, rfl, rfl⟩

namespace Draft.IsVisible

theorem reconnect {g : Grouping} (visible : g.fragment.isBlank = false) (connective : Connective) :
    (Draft.reconnect connective g).fragment.isBlank = false := by
  unfold Draft.reconnect
  split
  · exact Fragment.isBlank_parenthesize g.fragment
  · exact visible

theorem closedGroups {d : Draft} (visible : d.IsVisible) {connective : Connective} {g : Grouping}
    (closed : d.closedGroups connective = some g) : g.fragment.isBlank = false := by
  unfold Draft.closedGroups at closed
  split at closed
  · exact visible.grouping g closed
  · split at closed <;>
    · cases closed
      exact isBlank_groupedConditions d

/-- A step keeps the conditions of a draft visible. -/
theorem apply {d : Draft} (visible : d.IsVisible) (step : Step) : (step.apply d).IsVisible := by
  cases step.effect d with
  | kept keeps =>
    exact ⟨by rw [keeps.conditions]; exact visible.conditions,
      by rw [keeps.grouping]; exact visible.grouping⟩
  | added f added conditions grouping _ =>
    refine ⟨?_, by rw [grouping]; exact visible.grouping⟩
    rw [conditions]
    intro g member
    rcases List.mem_append.mp member with present | last
    · exact visible.conditions g present
    · rw [List.mem_singleton.mp last]
      exact added
  -- the open group is empty now, and what it held is part of the closed ones
  | regrouped connective conditions grouping _ =>
    refine ⟨by simp [conditions], ?_⟩
    rw [grouping]
    intro g mapped
    obtain ⟨g', closed, rfl⟩ := Option.map_eq_some_iff.mp mapped
    exact reconnect (visible.closedGroups closed) connective
  | permitted _ conditions grouping =>
    exact ⟨by rw [conditions]; exact visible.conditions,
      by rw [grouping]; exact visible.grouping⟩

/-- The conditions stay visible whatever steps are made, in whatever order. -/
theorem applyAll {d : Draft} (visible : d.IsVisible) (steps : List Step) :
    (Step.applyAll steps d).IsVisible := by
  induction steps generalizing d with
  | nil => simpa only [Step.applyAll] using visible
  | cons step steps inductionHypothesis =>
    simp only [Step.applyAll]
    exact inductionHypothesis (visible.apply step)

end Draft.IsVisible

/-- Only one step permits a change of all rows. -/
theorem Step.risky_applyAll {steps : List Step} (never : Step.risky ∉ steps) (d : Draft) :
    (Step.applyAll steps d).risky = d.risky := by
  induction steps generalizing d with
  | nil => simp only [Step.applyAll]
  | cons step steps inductionHypothesis =>
    rw [List.mem_cons, not_or] at never
    obtain ⟨notHere, notLater⟩ := never
    simp only [Step.applyAll]
    rw [inductionHypothesis notLater]
    cases step.effect d with
    | kept keeps => exact keeps.risky
    | added _ _ _ _ risky => exact risky
    | regrouped _ _ _ risky => exact risky
    | permitted here => exact absurd here.symm notHere

/-! ## The statements that are guarded -/

namespace Draft

/-- The conditions stand at the end of a statement, behind their keyword. -/
theorem withConditions_sql {d : Draft} {statement : Fragment} (visible : d.consolidated.isBlank = false)
    (begun : statement.sql.isEmpty = false) :
    (d.withConditions statement).sql = statement.sql ++ "\nWHERE " ++ d.consolidated.sql := by
  have condition : (d.consolidated.prefixed "WHERE ").sql.isEmpty = false :=
    Fragment.isEmpty_prefixed _ rfl
  simp only [withConditions]
  rw [if_neg (by simp [visible]), Fragment.append, if_neg (by simp [condition]),
    if_neg (by simp [begun])]
  simp only [Fragment.prefixed, String.append_assoc]
  rfl

theorem kind_of_buildSelect {d : Draft} {s : Statement} (built : d.buildSelect = .ok s) :
    s.kind = .select := by
  unfold buildSelect at built
  obtain ⟨source, -, built⟩ := exists_of_bind_eq_ok built
  cases built
  rfl

theorem kind_of_buildInsert {d : Draft} {mode : InsertMode} {rows : Fragment} {s : Statement}
    (built : d.buildInsert mode rows = .ok s) : s.kind = .insert := by
  unfold buildInsert at built
  obtain ⟨source, -, built⟩ := exists_of_bind_eq_ok built
  split at built
  · split at built <;> cases built
    rfl
  · cases built
    rfl

theorem kind_of_buildRaw {d : Draft} {s : Statement} (built : d.buildRaw = .ok s) :
    s.kind = .raw := by
  unfold buildRaw at built
  split at built
  · cases built
  · split at built
    · cases built
    · cases built
      rfl

theorem guarded_of_buildDelete {d : Draft} {s : Statement} (built : d.buildDelete = .ok s) :
    d.isGuarded = true ∧
      ∃ statement, statement.sql.isEmpty = false ∧ s.fragment = d.withConditions statement := by
  unfold buildDelete at built
  split at built
  · rename_i guarded
    obtain ⟨source, -, built⟩ := exists_of_bind_eq_ok built
    cases built
    exact ⟨guarded, _, Fragment.isEmpty_prefixed source rfl, rfl⟩
  · cases built

theorem guarded_of_buildUpdate {d : Draft} {changes : Fragment} {s : Statement}
    (built : d.buildUpdate changes = .ok s) :
    d.isGuarded = true ∧
      ∃ statement, statement.sql.isEmpty = false ∧ s.fragment = d.withConditions statement := by
  unfold buildUpdate at built
  split at built
  · rename_i guarded
    obtain ⟨source, -, built⟩ := exists_of_bind_eq_ok built
    cases built
    exact ⟨guarded, _, Fragment.isEmpty_append (Fragment.isEmpty_prefixed source rfl) _ _, rfl⟩
  · cases built

/-- A statement that changes rows is assembled of a guarded draft only, and its conditions come
last. -/
theorem guarded_of_build {d : Draft} {s : Statement} (built : d.build = .ok s)
    (changes : s.kind = .update ∨ s.kind = .delete) :
    d.isGuarded = true ∧
      ∃ statement, statement.sql.isEmpty = false ∧ s.fragment = d.withConditions statement := by
  unfold build at built
  split at built
  · cases built
  · split at built
    · exact guarded_of_buildDelete built
    · split at built
      · simp [kind_of_buildInsert built] at changes
      · exact guarded_of_buildUpdate built
      · split at built
        · simp [kind_of_buildSelect built] at changes
        · simp [kind_of_buildRaw built] at changes

end Draft

/-- **The guard is sound.**  After any steps, conditions are present exactly when the text of all
conditions is not blank.  Where no step permits a change of all rows, an update or a delete ends in
`WHERE` and that text. -/
theorem Query.build_hasConditions (query : Query) :
    query.draft.hasConditions = !query.draft.consolidated.isBlank ∧
      (Step.risky ∉ query.steps → ∀ s, query.build = .ok s → s.kind = .update ∨ s.kind = .delete →
        query.draft.consolidated.isBlank = false ∧
          ∃ front, s.sql = front ++ "\nWHERE " ++ query.draft.consolidated.sql) := by
  obtain ⟨dialect, steps⟩ := query
  have visible : (Query.mk dialect steps).draft.IsVisible := by
    simp only [Query.draft]
    exact (Draft.IsVisible.start dialect).applyAll steps
  have present := visible.hasConditions_iff
  refine ⟨present, fun never s built changes => ?_⟩
  have assembled : (Query.mk dialect steps).draft.build = .ok s := by
    simpa only [Query.build, Query.draft] using built
  obtain ⟨guarded, statement, begun, fragment⟩ := Draft.guarded_of_build assembled changes
  -- without permission it is a condition that guards the statement
  have notRisky : (Query.mk dialect steps).draft.risky = false := by
    simp only [Query.draft]
    exact Step.risky_applyAll never (Draft.start dialect)
  have nonBlank : (Query.mk dialect steps).draft.consolidated.isBlank = false := by
    rw [Draft.isGuarded, notRisky, Bool.false_or, present] at guarded
    simpa using guarded
  refine ⟨nonBlank, statement.sql, ?_⟩
  rw [Statement.sql, fragment, Draft.withConditions_sql nonBlank begun]

/-- A delete whose blank condition and empty group leave no trace. -/
theorem Query.build_hasConditions_delete :
    let query : Query := .mk .sqlite
      [.setTable "users", .filter (.literal " \t") {}, .regroup .or, .filter (.id 7) {}, .regroup .or,
        .filter (.literal "banned") {}, .regroup .and, .delete]
    query.draft.hasConditions = true ∧
      query.draft.consolidated = ⟨"( ( \"id\" = ? )\n\tOR ( banned ) )", [.int 7]⟩ ∧
      ∃ s, query.build = .ok s ∧ ∃ front, s.sql = front ++ "\nWHERE " ++ query.draft.consolidated.sql := by
  intro query
  have built : query.build = .ok ⟨.delete,
      "DELETE FROM \"users\"\nWHERE ( ( \"id\" = ? )\n\tOR ( banned ) )", [.int 7]⟩ := rfl
  obtain ⟨present, guarded⟩ := Query.build_hasConditions query
  obtain ⟨nonBlank, front, text⟩ := guarded (by simp [query, Query.steps]) _ built (.inr rfl)
  refine ⟨?_, rfl, _, built, front, text⟩
  rw [present, nonBlank]
  rfl

end SqlAssembly
