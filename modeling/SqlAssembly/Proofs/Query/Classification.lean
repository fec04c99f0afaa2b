import SqlAssembly.Proofs.Clause.Bare
import SqlAssembly.Proofs.Draft.Silent
import SqlAssembly.Proofs.Query.Failure
import SqlAssembly.Proofs.Query.Layout

/-! # Rows or writes

Whether a statement gives rows is told from its finished text.  The text of a statement starts with
the words of its kind, so a select always gives rows.  Anything else gives rows exactly if it asks
for the changed ones, and no word of a statement does: only a bare text of the caller can.

* `Query.bareTexts` — the texts that a query writes as they are.
* `Query.isSilent_build` — the statement of a query whose bare texts are silent.
* `Draft.exists_lead` — the words that a statement starts with.
* `Query.returnsRows_build` — the kind of a statement and what is told from its text.
-/

namespace SqlAssembly

/-! ## Bare texts -/

def FragmentSource.bareTexts (source : FragmentSource) : List String :=
  match Fragment.conform source .newline with
  | .ok f => [f.sql]
  | .error _ => []

mutual

/-- The bare texts of an input under the options of a call. -/
def Input.bareTexts (dialect : Dialect) : Input → FieldOptions → List String
  | .overridden input options, call => input.bareTexts dialect (call.merge options)
  | .literal sql, _ => [sql]
  | .fragment f, _ => [f.sql]
  | .subquery query, _ => query.bareTexts
  | .id n, call => Field.bareTexts dialect call none ("id", .scalar (.int n))
  | .condition field comparator value, call => Field.bareTexts dialect call comparator (field, value)
  | .mapping fields, call => Row.bareTexts dialect call fields
  | .rows rows, call => rows.flatMap (Row.bareTexts dialect call)

def JoinTarget.bareTexts (dialect : Dialect) : JoinTarget → List String
  | .table token => dialect.bareToken token
  | .subquery query => query.bareTexts

def Step.bareTexts (dialect : Dialect) : Step → List String
  | .filter input options => input.bareTexts dialect options
  | .having input => input.bareTexts dialect {}
  | .select selection => selection.bareTexts dialect
  | .setTable token => dialect.bareToken token
  | .addTable token => dialect.bareToken token
  | .setSubquery query => query.bareTexts
  | .named name => dialect.bareName name
  | .join target kind on =>
    target.bareTexts dialect ++ kind.bareTexts ++
      match on with
      | none => []
      | some input => input.bareTexts dialect { identity := true }
  | .joinRaw source => source.bareTexts
  | .order text => (OrderSpec.ofText text).bareTexts dialect
  | .group token => dialect.bareToken token
  | .insert rows => rows.bareTexts dialect {}
  | .replace rows => rows.bareTexts dialect {}
  | .insertIgnore rows => rows.bareTexts dialect {}
  | .upsert rows changes => rows.bareTexts dialect {} ++ changes.bareTexts dialect {}
  | .update changes => changes.bareTexts dialect {}
  | .refuse _ => []
  | .regroup _ => []
  | .limit _ => []
  | .offset _ => []
  | .lock _ => []
  | .risky => []
  | .delete => []

def Step.allBareTexts (dialect : Dialect) : List Step → List String
  | [] => []
  | step :: steps => step.bareTexts dialect ++ Step.allBareTexts dialect steps

/-- The texts that a query writes as they are, those of its subqueries included.  Where tables,
columns and fields are given by name only, these are the names that are not quoted. -/
def Query.bareTexts : Query → List String
  | .mk dialect steps => Step.allBareTexts dialect steps

end

/-! ## Silent queries -/

variable {dialect : Dialect} {call : FieldOptions}

/-- A comparator that is given by position adds to the bare texts of a field. -/
theorem Field.mem_bareTexts {entry : String × Value} {text : String}
    (bare : text ∈ Field.bareTexts dialect call none entry) (positional : Option String) :
    text ∈ Field.bareTexts dialect call positional entry := by
  unfold Field.bareTexts at bare ⊢
  split
  · rename_i field known
    simp only [known, IndicatedField.bareTexts, List.mem_append] at bare ⊢
    refine bare.imp_left (Or.imp_right fun given => ?_)
    cases comparator : (field.under call).options.comparator with
    | none => simp [comparator] at given
    | some own => simpa [comparator] using given
  · rename_i fault known
    rw [known] at bare
    exact bare

theorem isSilent_insertField {field : String} {positional : Option String} {value : Value} {f : Fragment}
    (silent : ∀ text ∈ Field.bareTexts dialect call positional (field, value), IsSilent text)
    (conformed : insertField dialect call field positional value = .ok f) : IsSilent f.sql := by
  have row (conformed : rowsFragment dialect call [Fields.empty.set field value] = .ok f) :
      IsSilent f.sql := by
    refine isSilent_rowsFragment (fun row member text bare => ?_) conformed
    rw [List.mem_singleton.mp member] at bare
    obtain ⟨entry, present, own⟩ := List.mem_flatMap.mp bare
    rw [List.mem_singleton.mp present] at own
    exact silent text (Field.mem_bareTexts own positional)
  unfold insertField at conformed
  split at conformed
  · exact row conformed
  · exact row conformed
  · cases conformed

theorem isSilent_passThrough {f : Fragment} (silent : IsSilent f.sql) :
    IsSilent (passThrough call f).sql := by
  unfold passThrough
  split
  · exact Fragment.isSilent_negate silent
  · exact silent

theorem Statement.isSilent_nested {s : Statement} (silent : IsSilent s.sql) : IsSilent s.nested.sql := by
  unfold nested
  split
  · exact Fragment.isSilent_parenthesize silent
  · exact silent

mutual

theorem Input.isSilent_conform (dialect : Dialect) (clause : Clause) :
    ∀ (input : Input) (call : FieldOptions) (f : Fragment),
      (∀ text ∈ input.bareTexts dialect call, IsSilent text) →
      input.conform dialect clause call = .ok f → IsSilent f.sql
  | .overridden input options, call, f, silent, conformed => by
    simp only [Input.bareTexts] at silent
    simp only [Input.conform] at conformed
    exact Input.isSilent_conform dialect clause input _ f silent conformed
  | .literal sql, call, f, silent, conformed => by
    simp only [Input.conform] at conformed
    cases conformed
    exact isSilent_passThrough (silent sql (by simp [Input.bareTexts]))
  | .fragment g, call, f, silent, conformed => by
    simp only [Input.conform] at conformed
    cases conformed
    exact isSilent_passThrough (silent g.sql (by simp [Input.bareTexts]))
  | .subquery query, call, f, silent, conformed => by
    simp only [Input.bareTexts] at silent
    simp only [Input.conform] at conformed
    obtain ⟨s, built, conformed⟩ := exists_of_bind_eq_ok conformed
    cases conformed
    exact isSilent_passThrough (s.isSilent_nested (Query.isSilent_build query s silent built))
  | .id n, call, f, silent, conformed => by
    simp only [Input.bareTexts] at silent
    simp only [Input.conform] at conformed
    split at conformed
    · exact isSilent_fieldFragment silent conformed
    · cases conformed
  | .condition field comparator value, call, f, silent, conformed => by
    simp only [Input.bareTexts] at silent
    simp only [Input.conform] at conformed
    split at conformed
    · exact isSilent_insertField silent conformed
    · exact isSilent_fieldFragment silent conformed
  | .mapping fields, call, f, silent, conformed => by
    simp only [Input.bareTexts] at silent
    simp only [Input.conform] at conformed
    split at conformed
    · exact isSilent_rowsFragment (by simpa using silent) conformed
    · exact isSilent_mappingFragment silent conformed
  | .rows rows, call, f, silent, conformed => by
    simp only [Input.bareTexts] at silent
    simp only [Input.conform] at conformed
    split at conformed
    · refine isSilent_rowsFragment (fun row member text bare => silent text ?_) conformed
      exact List.mem_flatMap.mpr ⟨row, member, bare⟩
    · cases conformed
termination_by structural input => input

theorem JoinTarget.isSilent_conform (dialect : Dialect) :
    ∀ (target : JoinTarget) (f : Fragment), (∀ text ∈ target.bareTexts dialect, IsSilent text) →
      target.conform dialect = .ok f → IsSilent f.sql
  | .table token, f, silent, conformed => by
    simp only [JoinTarget.bareTexts] at silent
    simp only [JoinTarget.conform] at conformed
    cases conformed
    exact Dialect.isSilent_quoteToken silent
  | .subquery query, f, silent, conformed => by
    simp only [JoinTarget.bareTexts] at silent
    simp only [JoinTarget.conform] at conformed
    obtain ⟨s, built, conformed⟩ := exists_of_bind_eq_ok conformed
    cases conformed
    exact Query.isSilent_build query s silent built
termination_by structural target => target

theorem Step.isSilent_apply :
    ∀ (step : Step) (d : Draft), (∀ text ∈ step.bareTexts d.dialect, IsSilent text) → d.Silent →
      (step.apply d).Silent
  | .filter input options, d, silent, draft => by
    simp only [Step.bareTexts] at silent
    simp only [Step.apply]
    exact draft.addCondition fun f => Input.isSilent_conform d.dialect .filter input options f silent
  | .having input, d, silent, draft => by
    simp only [Step.bareTexts] at silent
    simp only [Step.apply]
    exact draft.addHaving fun f => Input.isSilent_conform d.dialect .having input {} f silent
  | .select selection, d, silent, draft => by
    simp only [Step.bareTexts] at silent
    simp only [Step.apply]
    exact draft.select silent
  | .setTable token, d, silent, draft => by
    simp only [Step.bareTexts] at silent
    simp only [Step.apply]
    exact draft.setTable silent
  | .addTable token, d, silent, draft => by
    simp only [Step.bareTexts] at silent
    simp only [Step.apply]
    exact draft.addTable silent
  | .setSubquery query, d, silent, draft => by
    simp only [Step.bareTexts] at silent
    simp only [Step.apply]
    refine draft.setSubquery fun f given => ?_
    obtain ⟨s, built, given⟩ := exists_of_bind_eq_ok given
    cases given
    exact Query.isSilent_build query s silent built
  | .named name, d, silent, draft => by
    simp only [Step.bareTexts] at silent
    simp only [Step.apply]
    refine { draft with tableName := fun other same => ?_ }
    cases same
    exact silent
  | .join target kind none, d, silent, draft => by
    simp only [Step.bareTexts, List.mem_append] at silent
    simp only [Step.apply]
    refine draft.addJoin fun j given => ?_
    obtain ⟨f, conformed, given⟩ := exists_of_bind_eq_ok given
    cases given
    refine Join.silent_of_kind (fun text bare => silent text (.inl (.inr bare))) ?_ nofun
    exact JoinTarget.isSilent_conform d.dialect target f (fun text bare => silent text (.inl (.inl bare)))
      conformed
  | .join target kind (some on), d, silent, draft => by
    simp only [Step.bareTexts, List.mem_append] at silent
    simp only [Step.apply]
    refine draft.addJoin fun j given => ?_
    obtain ⟨f, conformed, given⟩ := exists_of_bind_eq_ok given
    obtain ⟨condition, found, given⟩ := exists_of_bind_eq_ok given
    cases given
    refine Join.silent_of_kind (fun text bare => silent text (.inl (.inr bare))) ?_ fun g same => ?_
    · exact JoinTarget.isSilent_conform d.dialect target f
        (fun text bare => silent text (.inl (.inl bare))) conformed
    · cases same
      exact Input.isSilent_conform d.dialect .filter on { identity := true } condition
        (fun text bare => silent text (.inr bare)) found
  | .joinRaw source, d, silent, draft => by
    simp only [Step.bareTexts, FragmentSource.bareTexts] at silent
    simp only [Step.apply]
    refine draft.addJoin fun j given => ?_
    obtain ⟨f, conformed, given⟩ := exists_of_bind_eq_ok given
    cases given
    rw [conformed] at silent
    exact ⟨nofun, silent f.sql List.mem_cons_self, nofun⟩
  | .order text, d, silent, draft => by
    simp only [Step.bareTexts] at silent
    simp only [Step.apply]
    exact { draft with
      order := List.forall_mem_append.mpr ⟨draft.order, List.forall_mem_singleton.mpr silent⟩ }
  | .group token, d, silent, draft => by
    simp only [Step.bareTexts] at silent
    simp only [Step.apply]
    exact { draft with
      groups := List.forall_mem_append.mpr ⟨draft.groups, List.forall_mem_singleton.mpr silent⟩ }
  | .insert rows, d, silent, draft => by
    simp only [Step.bareTexts] at silent
    simp only [Step.apply]
    exact draft.setInsertion .insert fun f =>
      Input.isSilent_conform d.dialect .insert rows {} f silent
  | .replace rows, d, silent, draft => by
    simp only [Step.bareTexts] at silent
    simp only [Step.apply]
    exact draft.setInsertion .replace fun f =>
      Input.isSilent_conform d.dialect .insert rows {} f silent
  | .insertIgnore rows, d, silent, draft => by
    simp only [Step.bareTexts] at silent
    simp only [Step.apply]
    exact draft.setInsertion .ignore fun f =>
      Input.isSilent_conform d.dialect .insert rows {} f silent
  | .upsert rows changes, d, silent, draft => by
    simp only [Step.bareTexts, List.mem_append] at silent
    simp only [Step.apply]
    refine (draft.setAssignment fun f => ?_).setInsertion .upsert fun f => ?_
    · exact Input.isSilent_conform d.dialect .update changes {} f fun text bare => silent text (.inr bare)
    · exact Input.isSilent_conform d.dialect .insert rows {} f fun text bare => silent text (.inl bare)
  | .update changes, d, silent, draft => by
    simp only [Step.bareTexts] at silent
    simp only [Step.apply]
    exact draft.setAssignment fun f => Input.isSilent_conform d.dialect .update changes {} f silent
  | .regroup connective, d, _, draft => draft.regroup connective
  | .refuse error, d, _, draft => by
    simp only [Step.apply, Draft.refuse]
    exact draft.accept fun _ refused => by cases refused
  | .lock mode, d, _, draft => draft.accept fun _ _ => { draft with }
  | .limit count, d, _, draft | .offset count, d, _, draft => { draft with }
  | .risky, d, _, draft | .delete, d, _, draft => { draft with }
termination_by structural step => step

theorem Step.isSilent_applyAll :
    ∀ (steps : List Step) (d : Draft), (∀ text ∈ Step.allBareTexts d.dialect steps, IsSilent text) →
      d.Silent → (Step.applyAll steps d).Silent
  | [], d, _, draft => by simpa only [Step.applyAll] using draft
  | step :: steps, d, silent, draft => by
    simp only [Step.allBareTexts, List.mem_append] at silent
    simp only [Step.applyAll]
    have same : (step.apply d).dialect = d.dialect := (step.records d).dialect
    refine Step.isSilent_applyAll steps (step.apply d) ?_
      (Step.isSilent_apply step d (fun text bare => silent text (.inl bare)) draft)
    rw [same]
    exact fun text bare => silent text (.inr bare)
termination_by structural steps => steps

/-- The statement of a query asks for no rows unless one of its bare texts does. -/
theorem Query.isSilent_build :
    ∀ (query : Query) (s : Statement), (∀ text ∈ query.bareTexts, IsSilent text) →
      query.build = .ok s → IsSilent s.sql
  | .mk dialect steps, s, silent, built => by
    simp only [Query.bareTexts] at silent
    simp only [Query.build] at built
    have draft : (Step.applyAll steps (Draft.start dialect)).Silent :=
      Step.isSilent_applyAll steps (Draft.start dialect) silent (Draft.Silent.start dialect)
    exact draft.build built
termination_by structural query => query

end

/-! ## First words -/

/-- A text that starts with another one. -/
def Begins (lead text : String) : Prop := ∃ rest, text = lead ++ rest

/-- The words that a select starts with, without a name and with one. -/
def rowLeads : List String := ["SELECT ", "( SELECT "]

/-- The words that a statement which changes rows starts with. -/
def changeLeads : List String :=
  ["INSERT INTO ", "REPLACE INTO ", "INSERT OR REPLACE INTO ", "INSERT IGNORE INTO ",
    "INSERT OR IGNORE INTO ", "UPDATE ", "DELETE FROM "]

namespace Fragment

variable {f : Fragment} {lead : String}

theorem begins_prefixed (f : Fragment) (lead : String) : Begins lead (f.prefixed lead).sql := ⟨f.sql, rfl⟩

theorem begins_append (begun : Begins lead f.sql) (given : lead ≠ "") (g : Fragment)
    (separator : String) : Begins lead (f.append g separator).sql := by
  obtain ⟨rest, text⟩ := begun
  unfold append
  split
  · exact ⟨rest, text⟩
  · split
    · rename_i empty
      rw [String.isEmpty_iff, text, String.append_eq_empty_iff] at empty
      exact absurd empty.1 given
    · exact ⟨rest ++ separator ++ g.sql, by simp only [text, String.append_assoc]⟩

theorem begins_foldl_append (begun : Begins lead f.sql) (given : lead ≠ "") (fragments : List Fragment)
    (separator : String) :
    Begins lead (fragments.foldl (fun joined g => joined.append g separator) f).sql := by
  induction fragments generalizing f with
  | nil => exact begun
  | cons g fragments inductionHypothesis =>
    exact inductionHypothesis (begins_append begun given g separator)

end Fragment

namespace Draft

variable {d : Draft} {s : Statement}

theorem begins_withConditions {f : Fragment} {lead : String} (begun : Begins lead f.sql)
    (given : lead ≠ "") : Begins lead (d.withConditions f).sql := by
  simp only [withConditions]
  split
  · exact begun
  · exact Fragment.begins_append begun given _ _

theorem begins_selectFragment (d : Draft) : Begins "SELECT " d.selectFragment.sql := by
  have everything : Begins "SELECT " "SELECT *" := ⟨"*", by decide⟩
  unfold selectFragment
  split
  · split
    · exact everything
    · exact ⟨_, rfl⟩
  · split
    · exact everything
    · exact ⟨_, rfl⟩
  · exact Fragment.begins_prefixed _ _
  · exact everything

theorem exists_lead_select (built : d.buildSelect = .ok s) : ∃ lead ∈ rowLeads, Begins lead s.sql := by
  obtain ⟨source, -, built⟩ := exists_of_bind_eq_ok built
  cases built
  have given : "SELECT " ≠ "" := by decide
  obtain ⟨rest, text⟩ := Fragment.begins_foldl_append
    (begins_withConditions (Fragment.begins_append d.begins_selectFragment given (source.prefixed "FROM ") "\n")
      given) given [d.groupLine, d.havingLine, d.orderLine, d.limitLine, d.lockLine] "\n"
  simp only [Statement.sql, aliased]
  split
  · exact ⟨"SELECT ", by decide, rest, text⟩
  · rename_i name named
    refine ⟨"( SELECT ", by decide, rest ++ " ) " ++ d.dialect.quoteIdentifier name, ?_⟩
    rw [text]
    have opened : "( SELECT " = "( " ++ "SELECT " := by decide
    simp only [opened, String.append_assoc]

theorem exists_lead_insert {mode : InsertMode} {rows : Fragment} (built : d.buildInsert mode rows = .ok s) :
    ∃ lead ∈ changeLeads, Begins lead s.sql := by
  have known : d.insertKeyword mode ++ " " ∈ changeLeads := by
    unfold insertKeyword
    cases mode <;> cases d.dialect <;> decide
  have given : d.insertKeyword mode ++ " " ≠ "" := by simp [String.append_eq_empty_iff]
  obtain ⟨source, -, built⟩ := exists_of_bind_eq_ok built
  have inserted := Fragment.begins_append (Fragment.begins_prefixed source (d.insertKeyword mode ++ " "))
    given rows " "
  refine ⟨_, known, ?_⟩
  split at built
  · split at built
    · cases built
    · cases built
      exact Fragment.begins_append inserted given _ _
  · cases built
    exact inserted

theorem exists_lead_update {changes : Fragment} (built : d.buildUpdate changes = .ok s) :
    ∃ lead ∈ changeLeads, Begins lead s.sql := by
  unfold buildUpdate at built
  split at built
  · obtain ⟨source, -, built⟩ := exists_of_bind_eq_ok built
    cases built
    have given : "UPDATE " ≠ "" := by decide
    exact ⟨"UPDATE ", by decide, begins_withConditions
      (Fragment.begins_append (Fragment.begins_prefixed source "UPDATE ") given _ _) given⟩
  · cases built

theorem exists_lead_delete (built : d.buildDelete = .ok s) : ∃ lead ∈ changeLeads, Begins lead s.sql := by
  unfold buildDelete at built
  split at built
  · obtain ⟨source, -, built⟩ := exists_of_bind_eq_ok built
    cases built
    exact ⟨"DELETE FROM ", by decide,
      begins_withConditions (Fragment.begins_prefixed source "DELETE FROM ") (by decide)⟩
  · cases built

/-- Every statement but SQL text of the caller starts with words that tell its kind. -/
theorem exists_lead (built : d.build = .ok s) (named : s.kind ≠ .raw) :
    ∃ lead ∈ (if s.kind = .select then rowLeads else changeLeads), Begins lead s.sql := by
  have assembled := assembly_of_build built
  cases kind : s.kind with
  | select =>
    simp only [kind] at assembled
    exact exists_lead_select assembled
  | insert =>
    simp only [kind] at assembled
    obtain ⟨mode, rows, -, assembled⟩ := assembled
    exact exists_lead_insert assembled
  | update =>
    simp only [kind] at assembled
    obtain ⟨changes, -, assembled⟩ := assembled
    exact exists_lead_update assembled
  | delete =>
    simp only [kind] at assembled
    exact exists_lead_delete assembled
  | raw => exact absurd kind named

end Draft

/-- The first keyword of a text is that of the words it starts with. -/
theorem head?_keywords {lead text word : String} (begun : Begins lead text) (front : IsLead lead)
    (first : (keywords lead).head? = some word) : (keywords text).head? = some word := by
  obtain ⟨rest, rfl⟩ := begun
  rw [keywords_append front.silent.closed (.inl front.ends), List.head?_append, first]
  rfl

/-- **The kind of a statement is told from its text.**  A select gives rows.  An insert, an update or
a delete gives none if no bare text of its query asks for rows or leaves a quoted region open. -/
theorem Query.returnsRows_build {query : Query} {s : Statement} (built : query.build = .ok s) :
    (s.kind = .select → returnsRows s.sql = true) ∧
      ((∀ text ∈ query.bareTexts, IsSilent text) →
        s.kind = .insert ∨ s.kind = .update ∨ s.kind = .delete → returnsRows s.sql = false) := by
  have lead := Draft.exists_lead (by rwa [← Query.build_eq] : query.draft.build = .ok s)
  constructor
  · intro select
    have speaks : ∀ lead ∈ rowLeads, IsLead lead ∧ (keywords lead).head? = some "SELECT" := by decide
    obtain ⟨lead, member, begun⟩ := lead (by simp [select])
    rw [if_pos select] at member
    obtain ⟨front, first⟩ := speaks lead member
    simp only [returnsRows, head?_keywords begun front first]
    rfl
  · intro silent changes
    have speaks : ∀ lead ∈ changeLeads, IsLead lead ∧
        ∃ word ∈ ["INSERT", "REPLACE", "UPDATE", "DELETE"], word ∉ rowVerbs ∧
          (keywords lead).head? = some word := by
      decide
    obtain ⟨lead, member, begun⟩ := lead (by rintro raw; simp [raw] at changes)
    rw [if_neg (by rintro select; simp [select] at changes)] at member
    obtain ⟨front, word, -, noRows, first⟩ := speaks lead member
    have quiet := (Query.isSilent_build query s silent built).quiet
    simp [returnsRows, head?_keywords begun front first, noRows, quiet]

/-- Names that are quoted may say anything; the dotted one is bare, and it asks for nothing. -/
theorem Query.returnsRows_build_delete :
    let orders : Query := .mk .mysql [.setTable "values.returning", .named "returning"]
    let query : Query := .mk .sqlite
      [.setTable "returning", .filterEq "t.returned" (.scalar (.int 1)), .filterSubquery orders, .delete]
    query.bareTexts = ["t.returned"] ∧
      ∃ s, query.build = .ok s ∧ returnsRows s.sql = false ∧
        s.sql = "DELETE FROM \"returning\"\nWHERE t.returned = ?\n\tAND ( SELECT *\n" ++
          "FROM \x60values\x60.\x60returning\x60 ) \x60returning\x60" := by
  intro orders query
  have bare : query.bareTexts = ["t.returned"] := by decide +kernel
  have built : query.build = .ok ⟨.delete, "DELETE FROM \"returning\"\nWHERE t.returned = ?\n\tAND " ++
      "( SELECT *\nFROM \x60values\x60.\x60returning\x60 ) \x60returning\x60", [.int 1]⟩ := by
    decide +kernel
  obtain ⟨-, noRows⟩ := Query.returnsRows_build built
  refine ⟨bare, _, built, noRows ?_ (.inr (.inr rfl)), rfl⟩
  rw [bare, List.forall_mem_singleton]
  decide

/-- SQLite reads `returning$at` as one name, but the scan for keywords stops in the middle of it, and
the delete is taken for a statement that gives rows. -/
theorem Query.returnsRows_build_bare :
    let query : Query := .mk .sqlite
      [.setTable "t", .filterEq "t.returning$at" (.scalar (.int 1)), .delete]
    let sql := "DELETE FROM \"t\"\nWHERE t.returning$at = ?"
    query.bareTexts = ["t.returning$at"] ∧ query.build = .ok ⟨.delete, sql, [.int 1]⟩ ∧
      returnsRows sql = true := by
  decide +kernel

end SqlAssembly
