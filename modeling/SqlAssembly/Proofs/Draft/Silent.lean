import SqlAssembly.Draft.Assembly
import SqlAssembly.Proofs.Identifier.Bare
import SqlAssembly.Proofs.Success

/-! # Silent drafts

A draft is silent when everything is that it will write as it is: the fragments it holds, and the
bare texts of its names and tokens.  Changes with silent input keep a draft silent, and what is
assembled from a silent draft is silent, because an assembly adds nothing but its own words.

* `Draft.Silent` — the invariant.
* `Draft.Silent.accept` and the lemmas behind it — changes that keep it.
* `Draft.Silent.build` — the statement of a silent draft.
-/

namespace SqlAssembly

/-! ## Parts -/

def Selection.bareTexts (dialect : Dialect) : Selection → List String
  | .expression text => dialect.bareToken text
  | .columns tokens => tokens.flatMap dialect.bareToken
  | .fragment f => [f.sql]

def Source.bareTexts (dialect : Dialect) : Source → List String
  | .tables tokens => tokens.flatMap dialect.bareToken
  | .subquery f => [f.sql]

/-- A join of silent words, whose target and condition are silent. -/
structure Join.Silent (j : Join) : Prop where
  kind : ∀ kind, j.kind = some kind → IsSilent kind.keyword
  target : IsSilent j.target.sql
  on : ∀ f, j.on = some f → IsSilent f.sql

/-- Whatever a draft will write as it is, is silent. -/
structure Draft.Silent (d : Draft) : Prop where
  conditions : ∀ f ∈ d.conditions, IsSilent f.sql
  grouping : ∀ g, d.grouping = some g → IsSilent g.fragment.sql
  having : ∀ f ∈ d.having, IsSilent f.sql
  selection : ∀ selection, d.selection = some selection →
    ∀ text ∈ selection.bareTexts d.dialect, IsSilent text
  source : ∀ source, d.source = some source →
    ∀ text ∈ source.bareTexts d.dialect, IsSilent text
  joins : ∀ j ∈ d.joins, j.Silent
  order : ∀ spec ∈ d.order, ∀ text ∈ spec.bareTexts d.dialect, IsSilent text
  groups : ∀ token ∈ d.groups, ∀ text ∈ d.dialect.bareToken token, IsSilent text
  insertion : ∀ mode rows, d.insertion = some (mode, rows) → IsSilent rows.sql
  assignment : ∀ f, d.assignment = some f → IsSilent f.sql
  tableName : ∀ name, d.tableName = some name →
    ∀ text ∈ d.dialect.bareName name, IsSilent text

theorem isSilent_tokens {α : Type} {item : α → String} {bare : α → List String} {items : List α}
    (quoted : ∀ x ∈ items, (∀ text ∈ bare x, IsSilent text) → IsSilent (item x))
    (silent : ∀ text ∈ items.flatMap bare, IsSilent text) :
    IsSilent (", ".intercalate (items.map item)) := by
  refine .intercalate (by decide) fun text member => ?_
  obtain ⟨x, present, rfl⟩ := List.mem_map.mp member
  exact quoted x present fun text member => silent text (List.mem_flatMap.mpr ⟨x, present, member⟩)

theorem Join.silent_of_kind {kind : JoinKind} {target : Fragment} {on : Option Fragment}
    (words : ∀ text ∈ kind.bareTexts, IsSilent text) (joined : IsSilent target.sql)
    (compared : ∀ f, on = some f → IsSilent f.sql) : Join.Silent ⟨some kind, target, on⟩ where
  kind := fun _ same => by
    cases same
    exact JoinKind.isSilent_keyword words
  target := joined
  on := compared

theorem Join.isSilent_fragment {j : Join} (silent : j.Silent) : IsSilent j.fragment.sql := by
  have announced : IsSilent j.announced.sql := by
    unfold announced
    cases given : j.kind with
    | none => exact silent.target
    | some kind => exact (silent.kind kind given).between (by decide) silent.target
  unfold fragment
  cases given : j.on with
  | none => exact announced
  | some condition =>
    exact Fragment.isSilent_append announced (by decide)
      (Fragment.isSilent_prefixed (silent.on condition given) (by decide))

namespace Draft

variable {d : Draft}

theorem Silent.start (dialect : Dialect) : (Draft.start dialect).Silent where
  conditions := nofun
  grouping := nofun
  having := nofun
  selection := nofun
  source := nofun
  joins := nofun
  order := nofun
  groups := nofun
  insertion := nofun
  assignment := nofun
  tableName := nofun

/-! ## Changes -/

theorem Silent.accept {α : Type} {result : Except AssemblyError α} {change : α → Draft}
    (silent : d.Silent) (changed : ∀ a, result = .ok a → (change a).Silent) :
    (d.accept result change).Silent := by
  unfold Draft.accept
  cases d.error with
  | some e => exact silent
  | none =>
    cases result with
    | ok a => exact changed a rfl
    | error e => exact { silent with }

theorem Silent.addCondition {condition : Except AssemblyError Fragment} (silent : d.Silent)
    (given : ∀ f, condition = .ok f → IsSilent f.sql) : (d.addCondition condition).Silent :=
  silent.accept fun f conformed => by
    split
    · exact silent
    · have added : ∀ g ∈ [f], IsSilent g.sql := List.forall_mem_singleton.mpr (given f conformed)
      exact { silent with conditions := List.forall_mem_append.mpr ⟨silent.conditions, added⟩ }

theorem Silent.addHaving {condition : Except AssemblyError Fragment} (silent : d.Silent)
    (given : ∀ f, condition = .ok f → IsSilent f.sql) : (d.addHaving condition).Silent :=
  silent.accept fun f conformed => by
    split
    · exact silent
    · have added : ∀ g ∈ [f], IsSilent g.sql := List.forall_mem_singleton.mpr (given f conformed)
      exact { silent with having := List.forall_mem_append.mpr ⟨silent.having, added⟩ }

theorem Silent.select {selection : Selection} (silent : d.Silent)
    (given : ∀ text ∈ selection.bareTexts d.dialect, IsSilent text) :
    (d.select selection).Silent :=
  { silent with
    selection := fun other same => by
      cases same
      exact given }

theorem Silent.setTable {token : String} (silent : d.Silent)
    (given : ∀ text ∈ d.dialect.bareToken token, IsSilent text) :
    (d.setTable token).Silent :=
  { silent with
    source := fun source same => by
      cases same
      simpa [Source.bareTexts, Draft.setTable] using given }

theorem Silent.addTable {token : String} (silent : d.Silent)
    (given : ∀ text ∈ d.dialect.bareToken token, IsSilent text) :
    (d.addTable token).Silent := by
  unfold Draft.addTable
  split
  · rename_i tokens tables
    refine { silent with source := fun source same text member => ?_ }
    cases same
    rw [Source.bareTexts, List.flatMap_append, List.mem_append] at member
    obtain old | new := member
    · exact silent.source _ tables text old
    · exact given text (by simpa using new)
  · exact silent.setTable given

theorem Silent.setSubquery {subquery : Except AssemblyError Fragment} (silent : d.Silent)
    (given : ∀ f, subquery = .ok f → IsSilent f.sql) : (d.setSubquery subquery).Silent :=
  silent.accept fun f conformed =>
    { silent with
      source := fun source same text member => by
        cases same
        rw [List.mem_singleton.mp member]
        exact given f conformed }

theorem Silent.addJoin {join : Except AssemblyError Join} (silent : d.Silent)
    (given : ∀ j, join = .ok j → j.Silent) : (d.addJoin join).Silent :=
  silent.accept fun j conformed =>
    have added := List.forall_mem_singleton.mpr (given j conformed)
    { silent with joins := List.forall_mem_append.mpr ⟨silent.joins, added⟩ }

theorem ok_of_payload {kind : Payload} {input : Except AssemblyError Fragment} {f : Fragment}
    (accepted : payload kind input = .ok f) : input = .ok f ∧ f.isBlank = false := by
  obtain ⟨g, given, accepted⟩ := exists_of_bind_eq_ok accepted
  split at accepted
  · cases accepted
  · rename_i visible
    cases accepted
    exact ⟨given, Bool.not_eq_true _ ▸ visible⟩

theorem Silent.setInsertion {input : Except AssemblyError Fragment} (silent : d.Silent)
    (mode : InsertMode) (given : ∀ f, input = .ok f → IsSilent f.sql) :
    (d.setInsertion mode input).Silent :=
  silent.accept fun f accepted =>
    { silent with
      insertion := fun _ _ same => by
        cases same
        exact given f (ok_of_payload accepted).1 }

theorem Silent.setAssignment {input : Except AssemblyError Fragment} (silent : d.Silent)
    (given : ∀ f, input = .ok f → IsSilent f.sql) : (d.setAssignment input).Silent :=
  silent.accept fun f accepted =>
    { silent with
      assignment := fun _ same => by
        cases same
        exact given f (ok_of_payload accepted).1 }

/-! ## Groups of conditions -/

theorem isSeparator_combinator (connective : Connective) : IsSeparator connective.combinator.text := by
  cases connective <;> decide

theorem Silent.groupedConditions (silent : d.Silent) : IsSilent d.groupedConditions.sql := by
  have current : IsSilent (Fragment.join .and d.conditions).parenthesize.sql :=
    Fragment.isSilent_parenthesize (Fragment.isSilent_join (by decide) silent.conditions)
  unfold Draft.groupedConditions
  cases grouping : d.grouping with
  | none => exact current
  | some g =>
    refine Fragment.isSilent_join (isSeparator_combinator g.connective) fun f member => ?_
    obtain rfl | rfl := by simpa using member
    · exact silent.grouping g grouping
    · exact current

theorem Silent.regroup (silent : d.Silent) (connective : Connective) :
    (d.regroup connective).Silent := by
  have closed (g : Grouping) (given : d.closedGroups connective = some g) :
      IsSilent g.fragment.sql := by
    unfold Draft.closedGroups at given
    split at given
    · exact silent.grouping g given
    · split at given <;> cases given <;> exact silent.groupedConditions
  refine silent.accept fun _ _ => { silent with conditions := nofun, grouping := fun g given => ?_ }
  obtain ⟨before, present, rfl⟩ := Option.map_eq_some_iff.mp given
  unfold reconnect
  split
  · exact Fragment.isSilent_parenthesize (closed before present)
  · exact closed before present

theorem Silent.consolidated (silent : d.Silent) : IsSilent d.consolidated.sql := by
  unfold Draft.consolidated
  cases grouping : d.grouping with
  | none => exact Fragment.isSilent_join (by decide) silent.conditions
  | some g =>
    simp only
    split
    · exact silent.grouping g grouping
    · exact silent.groupedConditions

/-! ## Assembly -/

theorem Silent.sourceFragment (silent : d.Silent) {f : Fragment} (given : d.sourceFragment = .ok f) :
    IsSilent f.sql := by
  unfold Draft.sourceFragment at given
  split at given
  · cases given
  · rename_i subquery source
    cases given
    exact silent.source _ source _ List.mem_cons_self
  · rename_i tokens source
    cases given
    exact isSilent_tokens (fun _ _ => Dialect.isSilent_quoteToken) (silent.source _ source)

theorem Silent.sourceWithJoins (silent : d.Silent) {f : Fragment}
    (given : d.sourceWithJoins = .ok f) : IsSilent f.sql := by
  obtain ⟨source, found, given⟩ := exists_of_bind_eq_ok given
  cases given
  have joins : ∀ g ∈ d.joins.map Join.fragment, IsSilent g.sql := by
    intro g member
    obtain ⟨j, present, rfl⟩ := List.mem_map.mp member
    exact Join.isSilent_fragment (silent.joins j present)
  have lines := Fragment.isSilent_foldl_append (silent.sourceFragment found)
    (by decide : IsSeparator "\n") joins
  rwa [List.foldl_map] at lines

theorem Silent.withConditions (silent : d.Silent) {f : Fragment} (begun : IsSilent f.sql) :
    IsSilent (d.withConditions f).sql := by
  simp only [Draft.withConditions]
  split
  · exact begun
  · exact Fragment.isSilent_append begun (by decide)
      (Fragment.isSilent_prefixed silent.consolidated (by decide))

theorem Silent.selectFragment (silent : d.Silent) : IsSilent d.selectFragment.sql := by
  have everything : IsSilent "SELECT *" := by decide
  have keyword : IsLead "SELECT " := by decide
  unfold Draft.selectFragment
  cases given : d.selection with
  | none => exact everything
  | some selection =>
    have bare := silent.selection selection given
    cases selection with
    | expression text =>
      simp only
      split
      · exact everything
      · exact (Dialect.isSilent_quoteToken bare).behind keyword
    | columns tokens =>
      simp only
      split
      · exact everything
      · exact (isSilent_tokens (fun _ _ => Dialect.isSilent_quoteToken) bare).behind keyword
    | fragment f => exact Fragment.isSilent_prefixed (bare f.sql List.mem_cons_self) keyword

theorem Silent.groupLine (silent : d.Silent) : IsSilent d.groupLine.sql := by
  unfold Draft.groupLine
  split
  · exact (by decide : IsSilent "")
  · refine (isSilent_tokens (fun _ _ => Dialect.isSilent_groupItem) fun text member => ?_).behind (by decide)
    obtain ⟨token, present, bare⟩ := List.mem_flatMap.mp member
    exact silent.groups token present text bare

theorem Silent.havingLine (silent : d.Silent) : IsSilent d.havingLine.sql := by
  unfold Draft.havingLine
  split
  · exact (by decide : IsSilent "")
  · exact Fragment.isSilent_prefixed (Fragment.isSilent_join (by decide) silent.having) (by decide)

theorem Silent.orderLine (silent : d.Silent) : IsSilent d.orderLine.sql := by
  unfold Draft.orderLine
  split
  · exact (by decide : IsSilent "")
  · refine (isSilent_tokens (fun _ _ => OrderSpec.isSilent_sql) fun text member => ?_).behind (by decide)
    obtain ⟨spec, present, bare⟩ := List.mem_flatMap.mp member
    exact silent.order spec present text bare

theorem isSilent_limitLine (d : Draft) : IsSilent d.limitLine.sql := by
  have number := IsSilent.ofNat
  have limitKeyword : IsLead "LIMIT " := by decide
  have offsetLine : IsSeparator "\nOFFSET " := by decide
  unfold limitLine Dialect.limitClause
  cases d.limit with
  | none =>
    cases d.offset with
    | none => exact (by decide : IsSilent "")
    | some offset =>
      -- an offset alone stands behind the limit that its dialect demands, if it does
      simp only [Option.map_none]
      split
      · exact (number offset).behind (by decide)
      · rename_i limit demanded
        have literal : IsSilent limit := by
          cases dialect : d.dialect <;> rw [dialect] at demanded <;> cases demanded <;> decide
        exact (literal.behind limitKeyword).between offsetLine (number offset)
  | some limit =>
    cases d.offset with
    | none => exact (number limit).behind limitKeyword
    | some offset => exact ((number limit).behind limitKeyword).between offsetLine (number offset)

theorem isSilent_lockLine (d : Draft) : IsSilent d.lockLine.sql := by
  unfold lockLine
  cases d.lock with
  | none => exact (by decide : IsSilent "")
  | some mode =>
    have keyword : IsSilent mode.keyword := by cases mode <;> decide
    exact keyword

theorem Silent.aliased (silent : d.Silent) {f : Fragment} (begun : IsSilent f.sql) :
    IsSilent (d.aliased f).sql := by
  unfold Draft.aliased
  cases given : d.tableName with
  | none => exact begun
  | some name =>
    exact (begun.behind (by decide)).between (by decide)
      (Dialect.isSilent_quoteIdentifier (silent.tableName name given))

theorem Silent.buildSelect (silent : d.Silent) {s : Statement} (built : d.buildSelect = .ok s) :
    IsSilent s.sql := by
  obtain ⟨source, found, built⟩ := exists_of_bind_eq_ok built
  cases built
  have selected := silent.withConditions (Fragment.isSilent_append silent.selectFragment
    (by decide : IsSeparator "\n")
    (Fragment.isSilent_prefixed (silent.sourceWithJoins found) (by decide : IsLead "FROM ")))
  refine silent.aliased (Fragment.isSilent_foldl_append selected (by decide) ?_)
  simp only [List.forall_mem_cons, List.not_mem_nil, false_implies, implies_true, and_true]
  exact ⟨silent.groupLine, silent.havingLine, silent.orderLine, d.isSilent_limitLine, d.isSilent_lockLine⟩

theorem Silent.buildInsert (silent : d.Silent) {mode : InsertMode} {rows : Fragment} {s : Statement}
    (payload : IsSilent rows.sql) (built : d.buildInsert mode rows = .ok s) :
    IsSilent s.sql := by
  obtain ⟨source, found, built⟩ := exists_of_bind_eq_ok built
  have keyword : IsLead (d.insertKeyword mode ++ " ") := by
    unfold insertKeyword
    cases mode <;> cases d.dialect <;> decide
  have inserted := Fragment.isSilent_append
    (Fragment.isSilent_prefixed (silent.sourceFragment found) keyword) (by decide : IsSeparator " ") payload
  split at built
  · split at built
    · cases built
    · rename_i changes given
      cases built
      have update : IsLead (d.dialect.upsertKeyword ++ " ") := by cases d.dialect <;> decide
      exact Fragment.isSilent_append inserted (by decide)
        (Fragment.isSilent_prefixed (silent.assignment changes given) update)
  · cases built
    exact inserted

theorem Silent.buildUpdate (silent : d.Silent) {changes : Fragment} {s : Statement}
    (payload : IsSilent changes.sql) (built : d.buildUpdate changes = .ok s) :
    IsSilent s.sql := by
  unfold Draft.buildUpdate at built
  split at built
  · obtain ⟨source, found, built⟩ := exists_of_bind_eq_ok built
    cases built
    exact silent.withConditions (Fragment.isSilent_append
      (Fragment.isSilent_prefixed (silent.sourceWithJoins found) (by decide)) (by decide)
      (Fragment.isSilent_prefixed payload (by decide)))
  · cases built

theorem Silent.buildDelete (silent : d.Silent) {s : Statement} (built : d.buildDelete = .ok s) :
    IsSilent s.sql := by
  unfold Draft.buildDelete at built
  split at built
  · obtain ⟨source, found, built⟩ := exists_of_bind_eq_ok built
    cases built
    exact silent.withConditions (Fragment.isSilent_prefixed (silent.sourceWithJoins found) (by decide))
  · cases built

theorem Silent.buildRaw (silent : d.Silent) {s : Statement} (built : d.buildRaw = .ok s) :
    IsSilent s.sql := by
  unfold Draft.buildRaw at built
  split at built
  · cases built
  · split at built
    · cases built
    · cases built
      exact silent.consolidated

theorem Silent.build (silent : d.Silent) {s : Statement} (built : d.build = .ok s) :
    IsSilent s.sql := by
  unfold Draft.build at built
  split at built
  · cases built
  · split at built
    · exact silent.buildDelete built
    · split at built
      · rename_i mode rows given
        exact silent.buildInsert (silent.insertion mode rows given) built
      · rename_i changes _ given
        exact silent.buildUpdate (silent.assignment changes given) built
      · split at built
        · exact silent.buildSelect built
        · exact silent.buildRaw built

end Draft

end SqlAssembly
