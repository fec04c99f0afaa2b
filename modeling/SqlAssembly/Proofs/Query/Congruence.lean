import SqlAssembly.Proofs.Clause.Congruence
import SqlAssembly.Proofs.Draft.Congruence
import SqlAssembly.Query.Assembly

/-! # Queries of two runs

Two inputs are alike under a congruence when their texts, fields and fragments are, and
two steps when they make the same change with alike inputs.  Queries of alike steps are
assembled into statements that agree, which is the one place where the steps of a query
are gone through.

* `Input.Alike`, `Step.Alike` — the relations.
* `Input.Alike.conform` — what a clause makes of alike inputs agrees.
* `agree_build` — the statements of queries of alike steps agree.
-/

namespace SqlAssembly

variable {rel : Fragment → Fragment → Prop} {dialect : Dialect}

theorem agree_passThrough (congruence : Congruence rel) (call : FieldOptions) {f f' : Fragment}
    (related : rel f f') : rel (passThrough call f) (passThrough call f') := by
  unfold passThrough
  split
  · exact congruence.negate related
  · exact related

theorem Statement.Alike.nested (congruence : Congruence rel) {s s' : Statement}
    (alike : Statement.Alike rel s s') : rel s.nested s'.nested := by
  unfold Statement.nested
  rw [← alike.kind]
  cases s.kind with
  | raw => exact congruence.parenthesize alike.fragment
  | select | insert | update | delete => exact alike.fragment

/-- A field of an insert, which takes no comparator but `=`. -/
theorem agree_insertField (congruence : Congruence rel) {call : FieldOptions}
    {positional : Option String} {entry entry' : String × Value}
    (alike : Field.Alike rel dialect call positional entry entry') :
    Agree rel (insertField dialect call entry.1 positional entry.2)
      (insertField dialect call entry'.1 positional entry'.2) := by
  have rows (neutral : positional = none ∨ positional = some "=") :
      Agree rel (rowsFragment dialect call [Fields.empty.set entry.1 entry.2])
        (rowsFragment dialect call [Fields.empty.set entry'.1 entry'.2]) :=
    agree_rowsFragment congruence (.cons (.cons (alike.unpositioned neutral) .nil) .nil)
  unfold insertField
  split
  · exact rows (.inl rfl)
  · exact rows (.inr rfl)
  · exact .refused _ _

/-- Inputs that hold alike fields, related fragments or queries whose statements agree. -/
inductive Input.Alike (rel : Fragment → Fragment → Prop) (dialect : Dialect) (clause : Clause) :
    FieldOptions → Input → Input → Prop where
  | literal {call : FieldOptions} {sql : String} : Admits rel sql →
      Input.Alike rel dialect clause call (.literal sql) (.literal sql)
  | mapping {call : FieldOptions} {fields fields' : Fields Value} :
      Row.Alike rel dialect call fields fields' →
      Input.Alike rel dialect clause call (.mapping fields) (.mapping fields')
  | rows {call : FieldOptions} {rows rows' : List (Fields Value)} :
      List.Forall₂ (Row.Alike rel dialect call) rows rows' →
      Input.Alike rel dialect clause call (.rows rows) (.rows rows')
  | condition {call : FieldOptions} {field field' : String} {comparator : Option String}
      {value value' : Value} :
      Field.Alike rel dialect call comparator (field, value) (field', value') →
      Input.Alike rel dialect clause call (.condition field comparator value)
        (.condition field' comparator value')
  | id {call : FieldOptions} {n n' : Int} :
      Field.Alike rel dialect call none ("id", .scalar (.int n)) ("id", .scalar (.int n')) →
      Input.Alike rel dialect clause call (.id n) (.id n')
  /-- Ids where they stand for nothing. -/
  | payload {call : FieldOptions} (n n' : Int) : clause.holdsConditions = false →
      Input.Alike rel dialect clause call (.id n) (.id n')
  /-- The condition that an id stands for. -/
  | expanded {call : FieldOptions} {n : Int} {field : String} {value : Value} :
      clause.holdsConditions = true →
      Field.Alike rel dialect call none ("id", .scalar (.int n)) (field, value) →
      Input.Alike rel dialect clause call (.id n) (.condition field none value)
  | subquery {call : FieldOptions} {query query' : Query} :
      Agree (Statement.Alike rel) query.build query'.build →
      Input.Alike rel dialect clause call (.subquery query) (.subquery query')
  | fragment {call : FieldOptions} {f f' : Fragment} : rel f f' →
      Input.Alike rel dialect clause call (.fragment f) (.fragment f')
  | overridden {call : FieldOptions} {input input' : Input} {options : FieldOptions} :
      Input.Alike rel dialect clause (call.merge options) input input' →
      Input.Alike rel dialect clause call (.overridden input options) (.overridden input' options)

/-- Alike inputs are refused together by a clause, or become related fragments. -/
theorem Input.Alike.conform (congruence : Congruence rel) {clause : Clause} {call : FieldOptions}
    {input input' : Input} (alike : Input.Alike rel dialect clause call input input') :
    Agree rel (input.conform dialect clause call) (input'.conform dialect clause call) := by
  induction alike with
  | @literal call sql allowed =>
    simp only [Input.conform]
    exact .given (agree_passThrough congruence call allowed)
  | mapping fields =>
    simp only [Input.conform]
    split
    · exact agree_rowsFragment congruence (.cons fields .nil)
    · exact agree_mappingFragment congruence clause fields
  | rows rows =>
    simp only [Input.conform]
    split
    · exact agree_rowsFragment congruence rows
    · exact .refused _ _
  | condition field =>
    have inserted := agree_insertField congruence field
    have fragments := agree_fieldFragment congruence clause field
    simp only [Input.conform]
    split
    · exact inserted
    · exact fragments
  | id field =>
    have fragments := agree_fieldFragment congruence clause field
    simp only [Input.conform]
    split
    · exact fragments
    · exact .refused _ _
  | payload n n' noConditions =>
    simp only [Input.conform]
    rw [if_neg (by simp [noConditions]), if_neg (by simp [noConditions])]
    exact .refused _ _
  | expanded conditions field =>
    have notInsert : clause ≠ .insert := by
      rintro rfl
      cases conditions
    have fragments := agree_fieldFragment congruence clause field
    simp only [Input.conform]
    rw [if_pos conditions, if_neg notInsert]
    exact fragments
  | @subquery call query query' agree =>
    simp only [Input.conform]
    exact agree.bind fun s s' alike =>
      .given (agree_passThrough congruence call (alike.nested congruence))
  | @fragment call f f' related =>
    simp only [Input.conform]
    exact .given (agree_passThrough congruence call related)
  | overridden _ inductionHypothesis =>
    simp only [Input.conform]
    exact inductionHypothesis

/-- Joined tables of one name, or joined queries whose statements agree. -/
inductive JoinTarget.Alike (rel : Fragment → Fragment → Prop) (dialect : Dialect) :
    JoinTarget → JoinTarget → Prop where
  | table {token : String} : Admits rel (dialect.quoteToken token) →
      JoinTarget.Alike rel dialect (.table token) (.table token)
  | subquery {query query' : Query} : Agree (Statement.Alike rel) query.build query'.build →
      JoinTarget.Alike rel dialect (.subquery query) (.subquery query')

theorem JoinTarget.Alike.conform {target target' : JoinTarget}
    (alike : JoinTarget.Alike rel dialect target target') :
    Agree rel (target.conform dialect) (target'.conform dialect) := by
  cases alike with
  | table allowed =>
    simp only [JoinTarget.conform]
    exact .given allowed
  | subquery agree =>
    simp only [JoinTarget.conform]
    exact agree.bind fun _ _ alike => .given alike.fragment

/-- Steps that make one change with alike inputs. -/
inductive Step.Alike (rel : Fragment → Fragment → Prop) (dialect : Dialect) : Step → Step → Prop where
  | filter {input input' : Input} {options : FieldOptions} :
      Input.Alike rel dialect .filter options input input' →
      Step.Alike rel dialect (.filter input options) (.filter input' options)
  | refuse (error : AssemblyError) : Step.Alike rel dialect (.refuse error) (.refuse error)
  | regroup (connective : Connective) :
      Step.Alike rel dialect (.regroup connective) (.regroup connective)
  | having {input input' : Input} :
      Input.Alike rel dialect .having {} input input' →
      Step.Alike rel dialect (.having input) (.having input')
  | select {selection selection' : Selection} : Selection.Alike rel dialect selection selection' →
      Step.Alike rel dialect (.select selection) (.select selection')
  | setTable {token : String} : Admits rel (dialect.quoteToken token) →
      Step.Alike rel dialect (.setTable token) (.setTable token)
  | addTable {token : String} : Admits rel (dialect.quoteToken token) →
      Step.Alike rel dialect (.addTable token) (.addTable token)
  | setSubquery {query query' : Query} : Agree (Statement.Alike rel) query.build query'.build →
      Step.Alike rel dialect (.setSubquery query) (.setSubquery query')
  | named {name : String} : Admits rel (dialect.quoteIdentifier name) →
      Step.Alike rel dialect (.named name) (.named name)
  | join {target target' : JoinTarget} {kind : JoinKind} {on on' : Option Input} :
      JoinTarget.Alike rel dialect target target' → Admits rel kind.keyword →
      Option.Rel (Input.Alike rel dialect .filter { identity := true }) on on' →
      Step.Alike rel dialect (.join target kind on) (.join target' kind on')
  | joinRaw {source source' : FragmentSource} :
      Agree rel (Fragment.conform source .newline) (Fragment.conform source' .newline) →
      Step.Alike rel dialect (.joinRaw source) (.joinRaw source')
  | order {text : String} : Admits rel ((OrderSpec.ofText text).sql dialect) →
      Step.Alike rel dialect (.order text) (.order text)
  | group {token : String} : Admits rel (dialect.groupItem token) →
      Step.Alike rel dialect (.group token) (.group token)
  | limit (count : Nat) : Step.Alike rel dialect (.limit count) (.limit count)
  | offset (count : Nat) : Step.Alike rel dialect (.offset count) (.offset count)
  | lock (mode : LockMode) : Step.Alike rel dialect (.lock mode) (.lock mode)
  | risky : Step.Alike rel dialect .risky .risky
  | insert {rows rows' : Input} :
      Input.Alike rel dialect .insert {} rows rows' →
      Step.Alike rel dialect (.insert rows) (.insert rows')
  | replace {rows rows' : Input} :
      Input.Alike rel dialect .insert {} rows rows' →
      Step.Alike rel dialect (.replace rows) (.replace rows')
  | insertIgnore {rows rows' : Input} :
      Input.Alike rel dialect .insert {} rows rows' →
      Step.Alike rel dialect (.insertIgnore rows) (.insertIgnore rows')
  | upsert {rows rows' changes changes' : Input} :
      Input.Alike rel dialect .insert {} rows rows' →
      Input.Alike rel dialect .update {} changes changes' →
      Step.Alike rel dialect (.upsert rows changes) (.upsert rows' changes')
  | update {changes changes' : Input} :
      Input.Alike rel dialect .update {} changes changes' →
      Step.Alike rel dialect (.update changes) (.update changes')
  | delete : Step.Alike rel dialect .delete .delete

/-- Alike steps keep drafts alike. -/
theorem Step.Alike.apply (congruence : Congruence rel) {step step' : Step}
    (alike : Step.Alike rel dialect step step') {d d' : Draft}
    (drafts : Draft.Alike rel dialect d d') :
    Draft.Alike rel dialect (step.apply d) (step'.apply d') := by
  -- input is conformed in the dialect of the draft, which is that of the query
  have own := drafts.ownDialect
  have other := drafts.otherDialect
  cases alike with
  | filter inputs =>
    simp only [Step.apply, own, other]
    exact drafts.addCondition congruence (inputs.conform congruence)
  | refuse error => exact drafts.refuse error
  | regroup connective => exact drafts.regroup congruence connective
  | having inputs =>
    simp only [Step.apply, own, other]
    exact drafts.addHaving congruence (inputs.conform congruence)
  | select related => exact drafts.select related
  | setTable allowed => exact drafts.setTable allowed
  | addTable allowed => exact drafts.addTable allowed
  | setSubquery agree =>
    simp only [Step.apply]
    exact drafts.setSubquery (agree.bind fun _ _ related => .given related.fragment)
  | @named name allowed =>
    simp only [Step.apply]
    exact { drafts with tableName := rfl, quotedName := fun other same => by cases same; exact allowed }
  | join targets keyword conditions =>
    cases conditions with
    | none =>
      simp only [Step.apply, own, other]
      refine drafts.addJoin (targets.conform.bind fun f f' related => ?_)
      exact .given ⟨rfl, fun _ same => (by cases same; exact keyword), related, .none⟩
    | some inputs =>
      simp only [Step.apply, own, other]
      refine drafts.addJoin (targets.conform.bind fun f f' related => ?_)
      refine (inputs.conform congruence).bind fun condition condition' conditionsRelated => ?_
      exact .given ⟨rfl, fun _ same => (by cases same; exact keyword), related, .some conditionsRelated⟩
  | joinRaw agree =>
    simp only [Step.apply]
    refine drafts.addJoin (agree.bind fun f f' related => ?_)
    exact .given ⟨rfl, fun _ impossible => (nomatch impossible), related, .none⟩
  | @order text allowed =>
    simp only [Step.apply]
    refine { drafts with order := congrArg (· ++ [OrderSpec.ofText text]) drafts.order, orderItems := ?_ }
    intro spec member
    rcases List.mem_append.mp member with present | added
    · exact drafts.orderItems spec present
    · rw [List.mem_singleton.mp added]
      exact allowed
  | @group token allowed =>
    simp only [Step.apply]
    refine { drafts with groups := congrArg (· ++ [token]) drafts.groups, groupItems := ?_ }
    intro item member
    rcases List.mem_append.mp member with present | added
    · exact drafts.groupItems item present
    · rw [List.mem_singleton.mp added]
      exact allowed
  | limit count => exact { drafts with limit := rfl }
  | offset count => exact { drafts with offset := rfl }
  | lock mode => exact drafts.setLock mode
  | risky => exact { drafts with risky := rfl }
  | insert inputs | replace inputs | insertIgnore inputs =>
    simp only [Step.apply, own, other]
    exact drafts.setInsertion congruence _ (inputs.conform congruence)
  | upsert rows changes =>
    simp only [Step.apply, own, other]
    exact (drafts.setAssignment congruence (changes.conform congruence)).setInsertion congruence
      .upsert (rows.conform congruence)
  | update inputs =>
    simp only [Step.apply, own, other]
    exact drafts.setAssignment congruence (inputs.conform congruence)
  | delete => exact { drafts with deletes := rfl }

theorem Step.Alike.applyAll (congruence : Congruence rel) {steps steps' : List Step}
    (alike : List.Forall₂ (Step.Alike rel dialect) steps steps') {d d' : Draft}
    (drafts : Draft.Alike rel dialect d d') :
    Draft.Alike rel dialect (Step.applyAll steps d) (Step.applyAll steps' d') := by
  induction alike generalizing d d' with
  | nil => simpa only [Step.applyAll] using drafts
  | cons head _ inductionHypothesis =>
    simp only [Step.applyAll]
    exact inductionHypothesis (head.apply congruence drafts)

/-- Queries of alike steps are refused together, or give alike statements. -/
theorem agree_build (congruence : Congruence rel) {steps steps' : List Step}
    (alike : List.Forall₂ (Step.Alike rel dialect) steps steps') :
    Agree (Statement.Alike rel) (Query.mk dialect steps).build (Query.mk dialect steps').build := by
  simp only [Query.build]
  exact (Step.Alike.applyAll congruence alike (Draft.Alike.start rel dialect)).build congruence

end SqlAssembly
