import SqlAssembly.Draft.Assembly
import SqlAssembly.Proofs.Fragment.Congruence
import SqlAssembly.Proofs.Text.Marks

/-! # Drafts of two runs

Two drafts are alike under a congruence when they have the same parts, with related
fragments in the same places.  Every change of a draft keeps drafts alike, and alike
drafts are assembled into statements of one kind with related fragments.

* `Draft.Alike` — the relation between drafts.
* `Draft.Alike.accept` — a change whose result may be an error keeps it.
* `Draft.Alike.build` — the statements of alike drafts agree.
-/

namespace SqlAssembly

/-! ## Alike parts -/

/-- Selections of the same texts, or of related fragments. -/
inductive Selection.Alike (rel : Fragment → Fragment → Prop) (dialect : Dialect) :
    Selection → Selection → Prop where
  | expression {text : String} : Admits rel (dialect.quoteToken text) →
      Selection.Alike rel dialect (.expression text) (.expression text)
  | columns {tokens : List String} : (∀ token ∈ tokens, Admits rel (dialect.quoteToken token)) →
      Selection.Alike rel dialect (.columns tokens) (.columns tokens)
  | fragment {f f' : Fragment} : rel f f' →
      Selection.Alike rel dialect (.fragment f) (.fragment f')

/-- Sources with the same tables, or related subqueries. -/
inductive Source.Alike (rel : Fragment → Fragment → Prop) (dialect : Dialect) :
    Source → Source → Prop where
  | tables {tokens : List String} : (∀ token ∈ tokens, Admits rel (dialect.quoteToken token)) →
      Source.Alike rel dialect (.tables tokens) (.tables tokens)
  | subquery {f f' : Fragment} : rel f f' → Source.Alike rel dialect (.subquery f) (.subquery f')

/-- Joins of one kind with related targets and conditions. -/
structure Join.Alike (rel : Fragment → Fragment → Prop) (j j' : Join) : Prop where
  kind : j.kind = j'.kind
  keyword : ∀ kind, j.kind = some kind → Admits rel kind.keyword
  target : rel j.target j'.target
  on : Option.Rel rel j.on j'.on

/-- Closed groups with one connective whose fragments are related. -/
structure Grouping.Alike (rel : Fragment → Fragment → Prop) (g g' : Grouping) : Prop where
  fragment : rel g.fragment g'.fragment
  connective : g.connective = g'.connective
  groups : g.groups = g'.groups

/-- Payloads of one mode with related rows. -/
structure InsertionAlike (rel : Fragment → Fragment → Prop)
    (insertion insertion' : InsertMode × Fragment) : Prop where
  mode : insertion.1 = insertion'.1
  rows : rel insertion.2 insertion'.2

/-- Statements of one kind with related fragments. -/
structure Statement.Alike (rel : Fragment → Fragment → Prop) (s s' : Statement) : Prop where
  kind : s.kind = s'.kind
  fragment : rel s.fragment s'.fragment

/-- Drafts with the same parts, which hold related fragments in the same places. -/
structure Draft.Alike (rel : Fragment → Fragment → Prop) (dialect : Dialect) (d d' : Draft) :
    Prop where
  ownDialect : d.dialect = dialect
  otherDialect : d'.dialect = dialect
  error : d.error.isSome = d'.error.isSome
  conditions : List.Forall₂ rel d.conditions d'.conditions
  grouping : Option.Rel (Grouping.Alike rel) d.grouping d'.grouping
  having : List.Forall₂ rel d.having d'.having
  selection : Option.Rel (Selection.Alike rel dialect) d.selection d'.selection
  source : Option.Rel (Source.Alike rel dialect) d.source d'.source
  joins : List.Forall₂ (Join.Alike rel) d.joins d'.joins
  order : d.order = d'.order
  orderItems : ∀ spec ∈ d.order, Admits rel (spec.sql dialect)
  groups : d.groups = d'.groups
  groupItems : ∀ token ∈ d.groups, Admits rel (dialect.groupItem token)
  limit : d.limit = d'.limit
  offset : d.offset = d'.offset
  insertion : Option.Rel (InsertionAlike rel) d.insertion d'.insertion
  assignment : Option.Rel rel d.assignment d'.assignment
  deletes : d.deletes = d'.deletes
  risky : d.risky = d'.risky
  tableName : d.tableName = d'.tableName
  quotedName : ∀ name, d.tableName = some name → Admits rel (dialect.quoteIdentifier name)
  lock : d.lock = d'.lock

/-- Related options are both absent or both present. -/
theorem absent_or_present {α β : Type} {rel : α → β → Prop} {x : Option α} {y : Option β}
    (related : Option.Rel rel x y) :
    (x = none ∧ y = none) ∨ ∃ a b, x = some a ∧ y = some b ∧ rel a b := by
  cases related with
  | none => exact .inl ⟨rfl, rfl⟩
  | some related => exact .inr ⟨_, _, rfl, rfl, related⟩

/-- Numbers and keywords make up the lines that limit the rows. -/
theorem marks_limitClause (dialect : Dialect) (limit offset : Option Nat) :
    Text.marks ((dialect.limitClause limit offset).getD "") = [] := by
  have limitKeyword : Text.marks "LIMIT " = [] := rfl
  have offsetKeyword : Text.marks "OFFSET " = [] := rfl
  have offsetLine : Text.marks "\nOFFSET " = [] := rfl
  cases limit <;> cases offset
  · rfl
  · cases dialect <;>
      simp [Dialect.limitClause, Dialect.limitForOffset, offsetKeyword] <;> rfl
  · simp [Dialect.limitClause, limitKeyword]
  · simp [Dialect.limitClause, limitKeyword, offsetLine]

namespace Draft.Alike

variable {rel : Fragment → Fragment → Prop} {dialect : Dialect} {d d' : Draft}

theorem start (rel : Fragment → Fragment → Prop) (dialect : Dialect) :
    Alike rel dialect (Draft.start dialect) (Draft.start dialect) where
  ownDialect := rfl
  otherDialect := rfl
  error := rfl
  conditions := .nil
  grouping := .none
  having := .nil
  selection := .none
  source := .none
  joins := .nil
  order := rfl
  orderItems := by simp [Draft.start]
  groups := rfl
  groupItems := by simp [Draft.start]
  limit := rfl
  offset := rfl
  insertion := .none
  assignment := .none
  deletes := rfl
  risky := rfl
  tableName := rfl
  quotedName := by simp [Draft.start]
  lock := rfl

/-! ## Changes -/

/-- A change with a result that may be an error keeps drafts alike. -/
theorem accept {α β : Type} {result : α → β → Prop} {x : Except AssemblyError α}
    {y : Except AssemblyError β} {change : α → Draft} {change' : β → Draft}
    (alike : Alike rel dialect d d') (agree : Agree result x y)
    (next : ∀ a b, result a b → Alike rel dialect (change a) (change' b)) :
    Alike rel dialect (d.accept x change) (d'.accept y change') := by
  -- either both drafts already have an error, or neither has
  have latched := alike.error
  unfold Draft.accept
  cases error : d.error with
  | some e =>
    cases error' : d'.error with
    | some e' => exact alike
    | none => simp [error, error'] at latched
  | none =>
    cases error' : d'.error with
    | some e' => simp [error, error'] at latched
    | none =>
      cases agree with
      | refused e e' => exact { alike with error := rfl }
      | given related => exact next _ _ related

theorem refuse (alike : Alike rel dialect d d') (error : AssemblyError) :
    Alike rel dialect (d.refuse error) (d'.refuse error) := by
  have refused : Agree Eq (.error error : Except AssemblyError Unit) (.error error) :=
    .refused error error
  exact alike.accept refused fun _ _ _ => alike

theorem addCondition (congruence : Congruence rel) (alike : Alike rel dialect d d')
    {x y : Except AssemblyError Fragment} (agree : Agree rel x y) :
    Alike rel dialect (d.addCondition x) (d'.addCondition y) :=
  alike.accept agree fun f f' related => by
    rw [congruence.isBlank related]
    split
    · exact alike
    · exact { alike with conditions := List.rel_append alike.conditions (.cons related .nil) }

theorem addHaving (congruence : Congruence rel) (alike : Alike rel dialect d d')
    {x y : Except AssemblyError Fragment} (agree : Agree rel x y) :
    Alike rel dialect (d.addHaving x) (d'.addHaving y) :=
  alike.accept agree fun f f' related => by
    rw [congruence.isBlank related]
    split
    · exact alike
    · exact { alike with having := List.rel_append alike.having (.cons related .nil) }

theorem select (alike : Alike rel dialect d d') {selection selection' : Selection}
    (related : Selection.Alike rel dialect selection selection') :
    Alike rel dialect (d.select selection) (d'.select selection') :=
  { alike with selection := .some related }

theorem setTable (alike : Alike rel dialect d d') {token : String}
    (allowed : Admits rel (dialect.quoteToken token)) :
    Alike rel dialect (d.setTable token) (d'.setTable token) :=
  { alike with source := .some (.tables (by simpa using allowed)) }

theorem addTable (alike : Alike rel dialect d d') {token : String}
    (allowed : Admits rel (dialect.quoteToken token)) :
    Alike rel dialect (d.addTable token) (d'.addTable token) := by
  unfold Draft.addTable
  rcases absent_or_present alike.source with ⟨given, given'⟩ | ⟨_, _, given, given', related⟩
  · rw [given, given']
    exact alike.setTable allowed
  · rw [given, given']
    cases related with
    | subquery _ => exact alike.setTable allowed
    | tables tables =>
      refine { alike with source := .some (.tables ?_) }
      intro other member
      rcases List.mem_append.mp member with present | added
      · exact tables other present
      · rw [List.mem_singleton.mp added]
        exact allowed

theorem setSubquery (alike : Alike rel dialect d d') {x y : Except AssemblyError Fragment}
    (agree : Agree rel x y) : Alike rel dialect (d.setSubquery x) (d'.setSubquery y) :=
  alike.accept agree fun _ _ related => { alike with source := .some (.subquery related) }

theorem addJoin (alike : Alike rel dialect d d') {x y : Except AssemblyError Join}
    (agree : Agree (Join.Alike rel) x y) : Alike rel dialect (d.addJoin x) (d'.addJoin y) :=
  alike.accept agree fun _ _ related =>
    { alike with joins := List.rel_append alike.joins (.cons related .nil) }

theorem setLock (alike : Alike rel dialect d d') (mode : LockMode) :
    Alike rel dialect (d.setLock mode) (d'.setLock mode) := by
  have supported : Agree Eq
      (if d.dialect.supportsLocks then .ok () else .error (.unsupportedLock d.dialect) :
        Except AssemblyError Unit)
      (if d'.dialect.supportsLocks then .ok () else .error (.unsupportedLock d'.dialect) :
        Except AssemblyError Unit) := by
    rw [alike.ownDialect, alike.otherDialect]
    split
    · exact .given rfl
    · exact .refused _ _
  exact alike.accept supported fun _ _ _ => { alike with lock := rfl }

theorem payload (congruence : Congruence rel) (kind : Payload)
    {x y : Except AssemblyError Fragment} (agree : Agree rel x y) :
    Agree rel (Draft.payload kind x) (Draft.payload kind y) :=
  agree.bind fun f f' related => by
    rw [congruence.isBlank related]
    split
    · exact .refused _ _
    · exact .given related

theorem setInsertion (congruence : Congruence rel) (alike : Alike rel dialect d d')
    (mode : InsertMode) {x y : Except AssemblyError Fragment} (agree : Agree rel x y) :
    Alike rel dialect (d.setInsertion mode x) (d'.setInsertion mode y) :=
  alike.accept (payload congruence .insert agree) fun _ _ related =>
    { alike with insertion := .some ⟨rfl, related⟩ }

theorem setAssignment (congruence : Congruence rel) (alike : Alike rel dialect d d')
    {x y : Except AssemblyError Fragment} (agree : Agree rel x y) :
    Alike rel dialect (d.setAssignment x) (d'.setAssignment y) :=
  alike.accept (payload congruence .update agree) fun _ _ related =>
    { alike with assignment := .some related }

/-! ## Groups of conditions -/

theorem combinator_isVerbatim (connective : Connective) :
    IsVerbatim connective.combinator.text := by
  cases connective <;> exact .of_marks_eq_nil rfl

theorem groupedConditions (congruence : Congruence rel) (alike : Alike rel dialect d d') :
    rel d.groupedConditions d'.groupedConditions := by
  -- the open group is in parentheses whether or not groups stand before it
  have current := congruence.parenthesize
    (congruence.join (congruence.verbatim (combinator_isVerbatim .and)) alike.conditions)
  unfold Draft.groupedConditions
  rcases absent_or_present alike.grouping with ⟨given, given'⟩ | ⟨g, g', given, given', related⟩
  · rw [given, given']
    exact current
  · rw [given, given']
    simp only [related.connective]
    exact congruence.join (congruence.verbatim (combinator_isVerbatim _))
      (.cons related.fragment (.cons current .nil))

theorem closedGroups (congruence : Congruence rel) (alike : Alike rel dialect d d')
    (connective : Connective) :
    Option.Rel (Grouping.Alike rel) (d.closedGroups connective) (d'.closedGroups connective) := by
  have grouped := groupedConditions congruence alike
  unfold Draft.closedGroups
  rw [isEmpty_eq_of_forall₂ alike.conditions]
  split
  · exact alike.grouping
  · rcases absent_or_present alike.grouping with ⟨given, given'⟩ | ⟨g, g', given, given', related⟩
    · rw [given, given']
      exact .some ⟨grouped, rfl, rfl⟩
    · rw [given, given']
      exact .some ⟨grouped, related.connective, congrArg (· + 1) related.groups⟩

theorem reconnect (congruence : Congruence rel) (connective : Connective) {g g' : Grouping}
    (related : Grouping.Alike rel g g') :
    Grouping.Alike rel (Draft.reconnect connective g) (Draft.reconnect connective g') := by
  obtain ⟨fragment, same, count⟩ := related
  unfold Draft.reconnect
  by_cases several : 1 < g.groups ∧ g.connective ≠ connective
  · rw [if_pos several, if_pos (by rwa [count, same] at several)]
    exact ⟨congruence.parenthesize fragment, rfl, rfl⟩
  · rw [if_neg several, if_neg (by rwa [count, same] at several)]
    exact ⟨fragment, rfl, count⟩

theorem regroup (congruence : Congruence rel) (alike : Alike rel dialect d d')
    (connective : Connective) :
    Alike rel dialect (d.regroup connective) (d'.regroup connective) := by
  have groups : Option.Rel (Grouping.Alike rel)
      ((d.closedGroups connective).map (Draft.reconnect connective))
      ((d'.closedGroups connective).map (Draft.reconnect connective)) := by
    rcases absent_or_present (closedGroups congruence alike connective) with
      ⟨given, given'⟩ | ⟨g, g', given, given', related⟩
    · rw [given, given']
      exact .none
    · rw [given, given']
      exact .some (reconnect congruence connective related)
  have accepted : Agree Eq (.ok () : Except AssemblyError Unit) (.ok ()) := .given rfl
  exact alike.accept accepted fun _ _ _ =>
    { alike with conditions := .nil, grouping := groups }

theorem consolidated (congruence : Congruence rel) (alike : Alike rel dialect d d') :
    rel d.consolidated d'.consolidated := by
  unfold Draft.consolidated
  rcases absent_or_present alike.grouping with ⟨given, given'⟩ | ⟨g, g', given, given', related⟩
  · rw [given, given']
    exact congruence.join (congruence.verbatim (combinator_isVerbatim .and)) alike.conditions
  · rw [given, given', isEmpty_eq_of_forall₂ alike.conditions]
    simp only
    split
    · exact related.fragment
    · exact groupedConditions congruence alike

/-! ## Assembly -/

theorem hasConditions (alike : Alike rel dialect d d') : d.hasConditions = d'.hasConditions := by
  unfold Draft.hasConditions
  rw [isEmpty_eq_of_forall₂ alike.conditions]
  rcases absent_or_present alike.grouping with ⟨given, given'⟩ | ⟨g, g', given, given', _⟩
  · rw [given, given']
  · rw [given, given']
    rfl

theorem joinAnnounced (congruence : Congruence rel) {j j' : Join} (alike : Join.Alike rel j j') :
    rel j.announced j'.announced := by
  have target := alike.target
  unfold Join.announced
  rw [← alike.kind]
  cases given : j.kind with
  | none => exact target
  | some kind =>
    exact congruence.prefixed (congruence.admits_append (alike.keyword kind given)
      (congruence.plain rfl)) target

theorem joinFragment (congruence : Congruence rel) {j j' : Join} (alike : Join.Alike rel j j') :
    rel j.fragment j'.fragment := by
  have announced := joinAnnounced congruence alike
  unfold Join.fragment
  rcases absent_or_present alike.on with ⟨given, given'⟩ | ⟨f, f', given, given', related⟩
  · rw [given, given']
    exact announced
  · rw [given, given']
    exact congruence.append (congruence.plain rfl) announced
      (congruence.prefixed (congruence.plain rfl) related)

theorem sourceFragment (congruence : Congruence rel) (alike : Alike rel dialect d d') :
    Agree rel d.sourceFragment d'.sourceFragment := by
  unfold Draft.sourceFragment
  rw [alike.ownDialect, alike.otherDialect]
  rcases absent_or_present alike.source with ⟨given, given'⟩ | ⟨_, _, given, given', related⟩
  · rw [given, given']
    exact .refused _ _
  · rw [given, given']
    cases related with
    | subquery related => exact .given related
    | tables tables =>
      have listed := congruence.admits_items (congruence.plain (t := "") rfl) tables
      rw [String.empty_append] at listed
      exact .given listed

theorem sourceWithJoins (congruence : Congruence rel) (alike : Alike rel dialect d d') :
    Agree rel d.sourceWithJoins d'.sourceWithJoins := by
  refine (sourceFragment congruence alike).bind fun f f' related => .given ?_
  have line : Admits rel "\n" := congruence.plain rfl
  have fragments : List.Forall₂ rel (d.joins.map Join.fragment) (d'.joins.map Join.fragment) := by
    rw [List.forall₂_map_left_iff, List.forall₂_map_right_iff]
    exact alike.joins.imp fun _ _ pair => joinFragment congruence pair
  simpa only [List.foldl_map] using congruence.foldl_append line related fragments

theorem withConditions (congruence : Congruence rel) (alike : Alike rel dialect d d')
    {f f' : Fragment} (related : rel f f') : rel (d.withConditions f) (d'.withConditions f') := by
  have conditions := consolidated congruence alike
  simp only [Draft.withConditions, congruence.isBlank conditions]
  split
  · exact related
  · exact congruence.append (congruence.plain rfl) related
      (congruence.prefixed (congruence.plain rfl) conditions)

theorem selectFragment (congruence : Congruence rel) (alike : Alike rel dialect d d') :
    rel d.selectFragment d'.selectFragment := by
  have everything : Admits rel "SELECT *" := congruence.plain rfl
  have keyword : Admits rel "SELECT " := congruence.plain rfl
  unfold Draft.selectFragment
  rw [alike.ownDialect, alike.otherDialect]
  rcases absent_or_present alike.selection with ⟨given, given'⟩ | ⟨_, _, given, given', related⟩
  · rw [given, given']
    exact everything
  · rw [given, given']
    cases related with
    | expression allowed =>
      simp only
      split
      · exact everything
      · exact congruence.admits_append keyword allowed
    | columns allowed =>
      simp only
      split
      · exact everything
      · exact congruence.admits_items keyword allowed
    | fragment related => exact congruence.prefixed keyword related

theorem groupLine (congruence : Congruence rel) (alike : Alike rel dialect d d') :
    rel d.groupLine d'.groupLine := by
  unfold Draft.groupLine
  rw [← alike.groups, alike.ownDialect, alike.otherDialect]
  split
  · exact congruence.plain rfl
  · exact congruence.admits_items (congruence.plain rfl) alike.groupItems

theorem havingLine (congruence : Congruence rel) (alike : Alike rel dialect d d') :
    rel d.havingLine d'.havingLine := by
  unfold Draft.havingLine
  rw [isEmpty_eq_of_forall₂ alike.having]
  split
  · exact congruence.plain rfl
  · exact congruence.prefixed (congruence.plain rfl)
      (congruence.join (congruence.verbatim (combinator_isVerbatim .and)) alike.having)

theorem orderLine (congruence : Congruence rel) (alike : Alike rel dialect d d') :
    rel d.orderLine d'.orderLine := by
  unfold Draft.orderLine
  rw [← alike.order, alike.ownDialect, alike.otherDialect]
  split
  · exact congruence.plain rfl
  · exact congruence.admits_items (congruence.plain rfl) alike.orderItems

theorem limitLine (congruence : Congruence rel) (alike : Alike rel dialect d d') :
    rel d.limitLine d'.limitLine := by
  unfold Draft.limitLine
  rw [← alike.limit, ← alike.offset, alike.ownDialect, alike.otherDialect]
  exact congruence.plain (marks_limitClause dialect d.limit d.offset)

theorem lockLine (congruence : Congruence rel) (alike : Alike rel dialect d d') :
    rel d.lockLine d'.lockLine := by
  unfold Draft.lockLine
  rw [← alike.lock]
  cases d.lock with
  | none => exact congruence.plain rfl
  | some mode => cases mode <;> exact congruence.plain rfl

theorem aliased (congruence : Congruence rel) (alike : Alike rel dialect d d')
    {f f' : Fragment} (related : rel f f') : rel (d.aliased f) (d'.aliased f') := by
  unfold Draft.aliased
  rw [← alike.tableName, alike.ownDialect, alike.otherDialect]
  cases given : d.tableName with
  | none => exact related
  | some name =>
    have opening : Admits rel "( " := congruence.plain rfl
    have closing : Admits rel (" ) " ++ dialect.quoteIdentifier name) :=
      congruence.admits_append (congruence.plain rfl)
        (alike.quotedName name given)
    simpa only [String.append_assoc] using congruence.enclose opening closing related

theorem buildSelect (congruence : Congruence rel) (alike : Alike rel dialect d d') :
    Agree (Statement.Alike rel) d.buildSelect d'.buildSelect := by
  have line : Admits rel "\n" := congruence.plain rfl
  have keyword : Admits rel "FROM " := congruence.plain rfl
  refine (sourceWithJoins congruence alike).bind fun source source' related => ?_
  have selected := withConditions congruence alike
    (congruence.append line (selectFragment congruence alike) (congruence.prefixed keyword related))
  have lines := congruence.foldl_append line selected
    (.cons (groupLine congruence alike) (.cons (havingLine congruence alike)
      (.cons (orderLine congruence alike) (.cons (limitLine congruence alike)
        (.cons (lockLine congruence alike) .nil)))))
  exact .given ⟨rfl, aliased congruence alike lines⟩

theorem buildInsert (congruence : Congruence rel) (alike : Alike rel dialect d d')
    (mode : InsertMode) {rows rows' : Fragment} (related : rel rows rows') :
    Agree (Statement.Alike rel) (d.buildInsert mode rows) (d'.buildInsert mode rows') := by
  have keyword : Admits rel (d.insertKeyword mode ++ " ") := by
    unfold Draft.insertKeyword
    cases mode <;> cases d.dialect <;> exact congruence.plain rfl
  have sameKeyword : d'.insertKeyword mode = d.insertKeyword mode := by
    unfold Draft.insertKeyword
    rw [alike.ownDialect, alike.otherDialect]
  refine (sourceFragment congruence alike).bind fun source source' sources => ?_
  rw [sameKeyword, alike.ownDialect, alike.otherDialect]
  have inserted := congruence.append (congruence.plain (t := " ") rfl)
    (congruence.prefixed keyword sources) related
  by_cases upsert : mode = .upsert
  · simp only [if_pos upsert]
    rcases absent_or_present alike.assignment with ⟨given, given'⟩ | ⟨f, f', given, given', changes⟩
    · rw [given, given']
      exact .refused _ _
    · rw [given, given']
      have update : Admits rel (dialect.upsertKeyword ++ " ") := by
        cases dialect <;> exact congruence.plain rfl
      exact .given ⟨rfl, congruence.append (congruence.plain rfl) inserted
        (congruence.prefixed update changes)⟩
  · simp only [if_neg upsert]
    exact .given ⟨rfl, inserted⟩

theorem isGuarded (alike : Alike rel dialect d d') : d.isGuarded = d'.isGuarded := by
  rw [Draft.isGuarded, Draft.isGuarded, alike.risky, hasConditions alike]

theorem buildUpdate (congruence : Congruence rel) (alike : Alike rel dialect d d')
    {changes changes' : Fragment} (related : rel changes changes') :
    Agree (Statement.Alike rel) (d.buildUpdate changes) (d'.buildUpdate changes') := by
  unfold Draft.buildUpdate
  rw [isGuarded alike]
  split
  · refine (sourceWithJoins congruence alike).bind fun source source' sources => .given ⟨rfl, ?_⟩
    exact withConditions congruence alike (congruence.append (congruence.plain rfl)
      (congruence.prefixed (congruence.plain rfl) sources)
      (congruence.prefixed (congruence.plain rfl) related))
  · exact .refused _ _

theorem buildDelete (congruence : Congruence rel) (alike : Alike rel dialect d d') :
    Agree (Statement.Alike rel) d.buildDelete d'.buildDelete := by
  unfold Draft.buildDelete
  rw [isGuarded alike]
  split
  · refine (sourceWithJoins congruence alike).bind fun source source' sources => .given ⟨rfl, ?_⟩
    exact withConditions congruence alike (congruence.prefixed (congruence.plain rfl) sources)
  · exact .refused _ _

theorem buildRaw (congruence : Congruence rel) (alike : Alike rel dialect d d') :
    Agree (Statement.Alike rel) d.buildRaw d'.buildRaw := by
  have conditions := consolidated congruence alike
  have needsTable : d.needsTable = d'.needsTable := by
    unfold Draft.needsTable
    rw [isEmpty_eq_of_forall₂ alike.joins, alike.order, alike.groups,
      isEmpty_eq_of_forall₂ alike.having, alike.limit, alike.offset]
  unfold Draft.buildRaw
  rw [needsTable, congruence.isBlank conditions]
  split
  · exact .refused _ _
  · split
    · exact .refused _ _
    · exact .given ⟨rfl, conditions⟩

/-- Alike drafts are refused together, or assembled into alike statements. -/
theorem build (congruence : Congruence rel) (alike : Alike rel dialect d d') :
    Agree (Statement.Alike rel) d.build d'.build := by
  have latched := alike.error
  unfold Draft.build
  cases error : d.error with
  | some e =>
    cases error' : d'.error with
    | some e' => exact .refused _ _
    | none => simp [error, error'] at latched
  | none =>
    cases error' : d'.error with
    | some e' => simp [error, error'] at latched
    | none =>
      -- both drafts choose the same statement, since they have the same parts
      rw [← alike.deletes]
      simp only
      split
      · exact buildDelete congruence alike
      · rcases absent_or_present alike.insertion with
          ⟨given, given'⟩ | ⟨⟨mode, rows⟩, ⟨mode', rows'⟩, given, given', sameMode, rowsAlike⟩
        · rcases absent_or_present alike.assignment with
            ⟨set, set'⟩ | ⟨changes, changes', set, set', related⟩
          · have target : d.targetsTable = d'.targetsTable := by
              unfold Draft.targetsTable
              rcases absent_or_present alike.source with ⟨from_, from'⟩ | ⟨_, _, from_, from', _⟩ <;>
                simp [from_, from']
            simp only [given, given', set, set', target]
            split
            · exact buildSelect congruence alike
            · exact buildRaw congruence alike
          · simp only [given, given', set, set']
            exact buildUpdate congruence alike related
        · simp only at sameMode rowsAlike
          subst sameMode
          simp only [given, given']
          exact buildInsert congruence alike mode rowsAlike

end Draft.Alike

end SqlAssembly
