import SqlAssembly.Proofs.Clause.Indicator
import SqlAssembly.Proofs.Fragment.Inlining
import SqlAssembly.Proofs.Query.WellQuoted

/-! # Placeholders and their parameters

A statement is assembled twice: once as it is, and once with every value that would be
bound written out as a literal, and every fragment of the caller with its parameters
written out.  The second statement is that of `Query.written`.  It has no parameters, so
nothing of it can stand in a wrong place.  For a well-quoted query the first is balanced
and, inlined, it is the second: each parameter belongs to its own placeholder.

* `Query.written` — the query with literals in place of bound values.
* `Query.agree_written` — its statement is the inlined statement of the query.
-/

namespace SqlAssembly

/-! ## Literals in place of bound values -/

/-- A scalar, or each element of a list, as the text of its literal. -/
def Value.written : Value → Value
  | .scalar s => .scalar (.text s.literal)
  | .list items => .list (items.map fun
    | .scalar s => .scalar (.text s.literal)
    | other => other)
  | .map fields => .map fields

/-- A field whose value is written out if it is bound.  The value becomes SQL text, which the
indicator in front of the name declares it to be; null has words of its own and is never bound. -/
def Field.written (call : FieldOptions) (entry : String × Value) : String × Value :=
  if bindsField call entry.1 && !entry.2.isNull then ("\"" ++ entry.1, entry.2.written) else entry

/-- The mapping with all bound values written out. -/
def Row.written (call : FieldOptions) (row : Fields Value) : Fields Value :=
  ⟨row.entries.map (Field.written call)⟩

/-- The fragment with its parameters written out. -/
def Fragment.written (f : Fragment) : Fragment := .raw f.inline

/-- The selection with the parameters of its fragment written out. -/
def Selection.written : Selection → Selection
  | .fragment f => .fragment f.written
  | other => other

/-- The fragment that a source stands for with its parameters written out; a source that stands
for none stays as it is. -/
def FragmentSource.written (source : FragmentSource) : FragmentSource :=
  match Fragment.conform source .newline with
  | .ok f => .fragment f.written
  | .error _ => source

mutual

/-- An input under the options of a call with all bound values written out.  An id that stands
for a condition becomes that condition. -/
def Input.written (clause : Clause) : Input → FieldOptions → Input
  | .overridden input options, call => .overridden (input.written clause (call.merge options)) options
  | .literal sql, _ => .literal sql
  | .fragment f, _ => .fragment f.written
  | .subquery query, _ => .subquery query.written
  | .id n, call =>
    if clause.holdsConditions then
      let entry := Field.written call ("id", .scalar (.int n))
      .condition entry.1 none entry.2
    else .id n
  | .condition field comparator value, call =>
    let entry := Field.written call (field, value)
    .condition entry.1 comparator entry.2
  | .mapping fields, call => .mapping (Row.written call fields)
  | .rows rows, call => .rows (rows.map (Row.written call))

/-- What a join adds, with all bound values written out. -/
def JoinTarget.written : JoinTarget → JoinTarget
  | .table token => .table token
  | .subquery query => .subquery query.written

/-- A step with all bound values written out. -/
def Step.written : Step → Step
  | .filter input options => .filter (input.written .filter options) options
  | .having input => .having (input.written .having {})
  | .select selection => .select selection.written
  | .setSubquery query => .setSubquery query.written
  | .join target kind none => .join target.written kind none
  | .join target kind (some on) =>
    .join target.written kind (some (on.written .filter { identity := true }))
  | .joinRaw source => .joinRaw source.written
  | .insert rows => .insert (rows.written .insert {})
  | .replace rows => .replace (rows.written .insert {})
  | .insertIgnore rows => .insertIgnore (rows.written .insert {})
  | .upsert rows changes => .upsert (rows.written .insert {}) (changes.written .update {})
  | .update changes => .update (changes.written .update {})
  | .setTable token => .setTable token
  | .addTable token => .addTable token
  | .named name => .named name
  | .order text => .order text
  | .group token => .group token
  | .refuse error => .refuse error
  | .regroup connective => .regroup connective
  | .limit count => .limit count
  | .offset count => .offset count
  | .lock mode => .lock mode
  | .risky => .risky
  | .delete => .delete

/-- Steps with all bound values written out. -/
def Step.allWritten : List Step → List Step
  | [] => []
  | step :: steps => step.written :: Step.allWritten steps

/-- The reference of a query: the same query in which a literal is written wherever a value
would be bound, in subqueries too. -/
def Query.written : Query → Query
  | .mk dialect steps => .mk dialect (Step.allWritten steps)

end

/-! ## Written input is alike -/

variable {dialect : Dialect} {call : FieldOptions} {positional : Option String}

/-- A placeholder with its parameter is inlined as the literal. -/
theorem inlines_placeholder (s : Scalar) : Fragment.Inlines ⟨"?", [s]⟩ (.raw s.literal) :=
  ⟨⟨(by decide : isClosed "?" = true), (by decide : placeholderCount "?" = 1)⟩,
    by rw [Fragment.inline_placeholder]⟩

theorem Fragment.IsBalanced.inlines {f : Fragment} (balanced : f.IsBalanced) :
    Fragment.Inlines f f.written := ⟨balanced, rfl⟩

/-- A scalar that is not bound is written the same in both statements. -/
theorem inlines_rendered {options : FieldOptions} (unbound : options.binds = false) {s : Scalar}
    (wellQuoted : options.isWellQuoted dialect s = true) :
    Fragment.Inlines (options.rendered dialect s) (options.rendered dialect s) := by
  rw [FieldOptions.rendered, if_neg (by simp [unbound]), FieldOptions.text]
  unfold FieldOptions.isWellQuoted at wellQuoted
  by_cases raw : options.raw = true
  · rw [if_pos raw] at wellQuoted ⊢
    exact congruence_inlines.verbatim (of_decide_eq_true wellQuoted)
  · have identity : options.identity = true := by simpa [FieldOptions.binds, raw] using unbound
    rw [if_neg raw] at wellQuoted ⊢
    rw [if_pos identity] at wellQuoted
    exact congruence_inlines.verbatim (Dialect.isVerbatim_quoteIdentifier wellQuoted)

theorem Value.written_alike {options options' : FieldOptions} (binds : options.binds = true)
    (raw : options'.raw = true) {value : Value} (notNull : value.isNull = false) :
    Value.Alike Fragment.Inlines dialect options options' value value.written := by
  have inlined (s : Scalar) : Fragment.Inlines (options.rendered dialect s)
      (options'.rendered dialect (.text s.literal)) := by
    rw [FieldOptions.rendered_of_binds binds, FieldOptions.rendered_of_raw raw]
    exact inlines_placeholder s
  cases value with
  | scalar s => exact .scalar notNull rfl (inlined s)
  | list items =>
    refine .list ?_
    rw [List.forall₂_map_right_iff]
    refine List.forall₂_same.mpr fun item _ => ?_
    cases item with
    | scalar s => exact .scalar (inlined s)
    | list | map => exact .unbindable rfl rfl
  | map fields => exact .map fields fields

/-- A field and the field with its value written out put the same text around the value. -/
theorem Field.written_alike {entry : String × Value}
    (wellQuoted : Field.isWellQuoted dialect call positional entry = true) :
    Field.Alike Fragment.Inlines dialect call positional entry (Field.written call entry) := by
  obtain ⟨field, value⟩ := entry
  unfold Field.isWellQuoted at wellQuoted
  unfold Field.Alike Field.written bindsField
  cases read : IndicatedField.read field with
  | error e =>
    simp only [Bool.false_and, Bool.false_eq_true, if_false, read]
    exact .refused e e
  | ok indicated =>
    simp only [read, IndicatedField.isWellQuoted, Bool.and_eq_true] at wellQuoted
    obtain ⟨⟨safe, comparator⟩, scalars⟩ := wellQuoted
    have column : Admits Fragment.Inlines (dialect.quoteIdentifier indicated.name) :=
      congruence_inlines.verbatim (Dialect.isVerbatim_quoteIdentifier safe)
    have compared := congruence_inlines.verbatim (of_decide_eq_true comparator)
    simp only
    by_cases bound : ((indicated.under call).options.binds && !value.isNull) = true
    · rw [if_pos bound]
      obtain ⟨binds, notNull⟩ := Bool.and_eq_true_iff.mp bound
      have identity : (indicated.under call).options.identity = false := by
        simpa using (Bool.and_eq_true_iff.mp binds).2
      have own : indicated.options.binds = true := FieldOptions.binds_of_merge binds
      simp only [IndicatedField.read_raw read own]
      -- the name, the negation and the comparator behind the added indicator are the old ones
      refine .given ⟨rfl, column, rfl, rfl, compared, ?_, ?_⟩
      · change (_ && (indicated.under call).options.identity) =
          (_ && (indicated.under call).options.identity)
        rw [identity, Bool.and_false, Bool.and_false]
      · exact Value.written_alike binds (by simp [IndicatedField.under, FieldOptions.merge])
          (by simpa using notNull)
    · rw [if_neg bound]
      simp only [read]
      refine .given ⟨rfl, column, rfl, rfl, compared, rfl, ?_⟩
      -- the field is as it was, so its value is null or goes into the text in both statements
      cases binds : (indicated.under call).options.binds with
      | true =>
        have isNull : value = .scalar .null := by
          cases value with
          | scalar s => cases s <;> simp_all [Value.isNull, Scalar.isNull]
          | list | map => simp_all [Value.isNull]
        rw [isNull]
        exact .null rfl
      | false =>
        refine .same fun s member => inlines_rendered binds ?_
        exact List.all_eq_true.mp scalars s member

theorem Row.written_alike {row : Fields Value} (wellQuoted : Row.isWellQuoted dialect call row = true) :
    Row.Alike Fragment.Inlines dialect call row (Row.written call row) := by
  unfold Row.Alike Row.written
  rw [List.forall₂_map_right_iff]
  exact List.forall₂_same.mpr fun entry member =>
    Field.written_alike (List.all_eq_true.mp wellQuoted entry member)

/-- A bare token is written the same in both statements. -/
theorem inlines_token {token : String} (wellQuoted : decide (IsVerbatim token) = true) :
    Admits Fragment.Inlines (dialect.quoteToken token) :=
  congruence_inlines.verbatim (Dialect.isVerbatim_quoteToken (of_decide_eq_true wellQuoted))

theorem Selection.written_alike {selection : Selection} (wellQuoted : selection.isWellQuoted = true) :
    Selection.Alike Fragment.Inlines dialect selection selection.written := by
  cases selection with
  | expression text => exact .expression (inlines_token wellQuoted)
  | columns tokens =>
    exact .columns fun token member => inlines_token (List.all_eq_true.mp wellQuoted token member)
  | fragment f => exact .fragment (Fragment.IsBalanced.inlines (of_decide_eq_true wellQuoted))

theorem FragmentSource.conform_written {source : FragmentSource}
    (wellQuoted : source.isWellQuoted = true) :
    Agree Fragment.Inlines (Fragment.conform source .newline)
      (Fragment.conform source.written .newline) := by
  unfold FragmentSource.isWellQuoted at wellQuoted
  unfold FragmentSource.written
  cases conformed : Fragment.conform source .newline with
  | error e =>
    simp only [conformed]
    exact .refused e e
  | ok f =>
    simp only [conformed] at wellQuoted
    exact .given (Fragment.IsBalanced.inlines (of_decide_eq_true wellQuoted))

mutual

theorem Input.written_alike (dialect : Dialect) (clause : Clause) :
    ∀ (input : Input) (call : FieldOptions), input.isWellQuoted dialect call = true →
      Input.Alike Fragment.Inlines dialect clause call input (input.written clause call)
  | .literal sql, call, wellQuoted => by
    simp only [Input.isWellQuoted] at wellQuoted
    simp only [Input.written]
    exact .literal (congruence_inlines.verbatim (of_decide_eq_true wellQuoted))
  | .mapping fields, call, wellQuoted => by
    simp only [Input.isWellQuoted] at wellQuoted
    simp only [Input.written]
    exact .mapping (Row.written_alike wellQuoted)
  | .rows rows, call, wellQuoted => by
    simp only [Input.isWellQuoted] at wellQuoted
    simp only [Input.written]
    refine .rows ?_
    rw [List.forall₂_map_right_iff]
    exact List.forall₂_same.mpr fun row member =>
      Row.written_alike (List.all_eq_true.mp wellQuoted row member)
  | .condition field comparator value, call, wellQuoted => by
    simp only [Input.isWellQuoted] at wellQuoted
    simp only [Input.written]
    exact .condition (Field.written_alike wellQuoted)
  | .id n, call, wellQuoted => by
    simp only [Input.isWellQuoted] at wellQuoted
    simp only [Input.written]
    split
    · rename_i conditions
      exact .expanded conditions (Field.written_alike wellQuoted)
    · rename_i noConditions
      exact .payload n n (by simpa using noConditions)
  | .subquery query, call, wellQuoted => by
    simp only [Input.isWellQuoted] at wellQuoted
    simp only [Input.written]
    exact .subquery (Query.agree_written query wellQuoted)
  | .fragment f, call, wellQuoted => by
    simp only [Input.isWellQuoted] at wellQuoted
    simp only [Input.written]
    exact .fragment (Fragment.IsBalanced.inlines (of_decide_eq_true wellQuoted))
  | .overridden input options, call, wellQuoted => by
    simp only [Input.isWellQuoted] at wellQuoted
    simp only [Input.written]
    exact .overridden (Input.written_alike dialect clause input (call.merge options) wellQuoted)
termination_by structural input => input

theorem JoinTarget.written_alike (dialect : Dialect) :
    ∀ target : JoinTarget, target.isWellQuoted = true →
      JoinTarget.Alike Fragment.Inlines dialect target target.written
  | .table token, wellQuoted => by
    simp only [JoinTarget.isWellQuoted] at wellQuoted
    simp only [JoinTarget.written]
    exact .table (inlines_token wellQuoted)
  | .subquery query, wellQuoted => by
    simp only [JoinTarget.isWellQuoted] at wellQuoted
    simp only [JoinTarget.written]
    exact .subquery (Query.agree_written query wellQuoted)
termination_by structural target => target

theorem Step.written_alike (dialect : Dialect) :
    ∀ step : Step, step.isWellQuoted dialect = true →
      Step.Alike Fragment.Inlines dialect step step.written
  | .filter input options, wellQuoted => by
    simp only [Step.isWellQuoted] at wellQuoted
    simp only [Step.written]
    exact .filter (Input.written_alike dialect .filter input options wellQuoted)
  | .having input, wellQuoted => by
    simp only [Step.isWellQuoted] at wellQuoted
    simp only [Step.written]
    exact .having (Input.written_alike dialect .having input {} wellQuoted)
  | .select selection, wellQuoted => by
    simp only [Step.isWellQuoted] at wellQuoted
    simp only [Step.written]
    exact .select (Selection.written_alike wellQuoted)
  | .setTable token, wellQuoted => by
    simp only [Step.isWellQuoted] at wellQuoted
    simp only [Step.written]
    exact .setTable (inlines_token wellQuoted)
  | .addTable token, wellQuoted => by
    simp only [Step.isWellQuoted] at wellQuoted
    simp only [Step.written]
    exact .addTable (inlines_token wellQuoted)
  | .setSubquery query, wellQuoted => by
    simp only [Step.isWellQuoted] at wellQuoted
    simp only [Step.written]
    exact .setSubquery (Query.agree_written query wellQuoted)
  | .named name, wellQuoted => by
    simp only [Step.isWellQuoted] at wellQuoted
    simp only [Step.written]
    exact .named (congruence_inlines.verbatim (Dialect.isVerbatim_quoteIdentifier wellQuoted))
  | .join target kind none, wellQuoted => by
    simp only [Step.isWellQuoted, Bool.and_true, Bool.and_eq_true] at wellQuoted
    simp only [Step.written]
    exact .join (JoinTarget.written_alike dialect target wellQuoted.1)
      (congruence_inlines.verbatim (JoinKind.isVerbatim_keyword wellQuoted.2)) .none
  | .join target kind (some on), wellQuoted => by
    simp only [Step.isWellQuoted, Bool.and_eq_true] at wellQuoted
    simp only [Step.written]
    exact .join (JoinTarget.written_alike dialect target wellQuoted.1.1)
      (congruence_inlines.verbatim (JoinKind.isVerbatim_keyword wellQuoted.1.2))
      (.some (Input.written_alike dialect .filter on { identity := true } wellQuoted.2))
  | .joinRaw source, wellQuoted => by
    simp only [Step.isWellQuoted] at wellQuoted
    simp only [Step.written]
    exact .joinRaw (FragmentSource.conform_written wellQuoted)
  | .order text, wellQuoted => by
    simp only [Step.isWellQuoted] at wellQuoted
    simp only [Step.written]
    exact .order (congruence_inlines.verbatim
      (OrderSpec.isVerbatim_ofText (of_decide_eq_true wellQuoted)))
  | .group token, wellQuoted => by
    simp only [Step.isWellQuoted] at wellQuoted
    simp only [Step.written]
    exact .group (congruence_inlines.verbatim
      (Dialect.isVerbatim_groupItem (of_decide_eq_true wellQuoted)))
  | .insert rows, wellQuoted => by
    simp only [Step.isWellQuoted] at wellQuoted
    simp only [Step.written]
    exact .insert (Input.written_alike dialect .insert rows {} wellQuoted)
  | .replace rows, wellQuoted => by
    simp only [Step.isWellQuoted] at wellQuoted
    simp only [Step.written]
    exact .replace (Input.written_alike dialect .insert rows {} wellQuoted)
  | .insertIgnore rows, wellQuoted => by
    simp only [Step.isWellQuoted] at wellQuoted
    simp only [Step.written]
    exact .insertIgnore (Input.written_alike dialect .insert rows {} wellQuoted)
  | .upsert rows changes, wellQuoted => by
    simp only [Step.isWellQuoted, Bool.and_eq_true] at wellQuoted
    simp only [Step.written]
    exact .upsert (Input.written_alike dialect .insert rows {} wellQuoted.1)
      (Input.written_alike dialect .update changes {} wellQuoted.2)
  | .update changes, wellQuoted => by
    simp only [Step.isWellQuoted] at wellQuoted
    simp only [Step.written]
    exact .update (Input.written_alike dialect .update changes {} wellQuoted)
  | .refuse error, _ => .refuse error
  | .regroup connective, _ => .regroup connective
  | .limit count, _ => .limit count
  | .offset count, _ => .offset count
  | .lock mode, _ => .lock mode
  | .risky, _ => .risky
  | .delete, _ => .delete
termination_by structural step => step

theorem Step.allWritten_alike (dialect : Dialect) :
    ∀ steps : List Step, Step.allWellQuoted dialect steps = true →
      List.Forall₂ (Step.Alike Fragment.Inlines dialect) steps (Step.allWritten steps)
  | [], _ => .nil
  | step :: steps, wellQuoted => by
    simp only [Step.allWellQuoted, Bool.and_eq_true] at wellQuoted
    simp only [Step.allWritten]
    exact .cons (Step.written_alike dialect step wellQuoted.1)
      (Step.allWritten_alike dialect steps wellQuoted.2)
termination_by structural steps => steps

/-- A well-quoted query and its reference are refused together, or the statement of the query is
balanced and inlined it is the statement of the reference. -/
theorem Query.agree_written :
    ∀ query : Query, query.isWellQuoted = true →
      Agree (Statement.Alike Fragment.Inlines) query.build query.written.build
  | .mk dialect steps, wellQuoted => by
    simp only [Query.isWellQuoted] at wellQuoted
    simp only [Query.written]
    exact agree_build congruence_inlines (Step.allWritten_alike dialect steps wellQuoted)
termination_by structural query => query

end

/-- **Placeholder balance.**  Whatever names and values a well-quoted query holds, its statement
ends outside quotes and has one placeholder for each of its parameters. -/
theorem Query.build_isBalanced {query : Query} (wellQuoted : query.isWellQuoted = true) {s : Statement}
    (built : query.build = .ok s) :
    isClosed s.sql = true ∧ s.fragment.placeholders = s.params.length := by
  have agree := query.agree_written wellQuoted
  rw [built] at agree
  generalize query.written.build = reference at agree
  cases agree with
  | given alike => exact ⟨alike.fragment.balanced.closed, alike.fragment.balanced.count⟩

/-- An update whose names and values are full of quotes and question marks, with a fragment and a
subquery of another dialect among its conditions. -/
theorem Query.build_isBalanced_update :
    let visits : Query := .mk .sqlite
      [.setTable "visits", .filter (.condition "pa?ge" (some "LIKE") (.scalar (.text "?'%"))) {}]
    let query : Query := .mk .mysql
      [.setTable "users",
        .update (.mapping ⟨[("no\x60te?", .scalar (.text "it's?")), ("\"seen", .scalar (.text "now()"))]⟩),
        .filter (.fragment ⟨"mark <> '?' AND age > ?", [.int 30]⟩) {}, .regroup .or,
        .filter (.condition "id" none (.list [.scalar (.int 1), .scalar .null])) {},
        .filter (.subquery visits) {}]
    ∃ s, query.build = .ok s ∧ isClosed s.sql = true ∧ s.fragment.placeholders = s.params.length ∧
      s.params = [.text "it's?", .int 30, .int 1, .null, .text "?'%"] := by
  intro visits query
  have wellQuoted : query.isWellQuoted = true := by decide +kernel
  have built : query.build = .ok ⟨.update,
      "UPDATE \x60users\x60\nSET \x60no\x60\x60te?\x60 = ?, \x60seen\x60 = now()\n" ++
        "WHERE ( mark <> '?' AND age > ? )\n\tOR ( \x60id\x60 IN (?, ?)\n\tAND SELECT *\n" ++
        "FROM \"visits\"\nWHERE \"pa?ge\" LIKE ? )",
      [.text "it's?", .int 30, .int 1, .null, .text "?'%"]⟩ := by decide +kernel
  obtain ⟨closed, count⟩ := Query.build_isBalanced wellQuoted built
  exact ⟨_, built, closed, count, rfl⟩

/-- **Each parameter belongs to its own placeholder.**  The statement of a well-quoted query with
its parameters written out is the statement assembled with literals in the first place, which has
no parameters at all. -/
theorem Query.inline_build {query : Query} (wellQuoted : query.isWellQuoted = true) {s : Statement}
    (built : query.build = .ok s) :
    ∃ reference, query.written.build = .ok reference ∧ reference.kind = s.kind ∧
      reference.params = [] ∧ s.inline = reference.sql := by
  have agree := query.agree_written wellQuoted
  rw [built] at agree
  cases assembled : query.written.build with
  | error e =>
    rw [assembled] at agree
    cases agree
  | ok reference =>
    rw [assembled] at agree
    cases agree with
    | given alike =>
      -- the relation says at once that the reference has no parameters and which text it has
      have written := alike.fragment.written
      refine ⟨reference, rfl, alike.kind.symm, ?_, ?_⟩
      · rw [Statement.params, written, Fragment.params_raw]
      · rw [Statement.inline, Statement.sql, written, Fragment.sql_raw]

/-- A select whose parameters stem from a joined query, a fragment and an id, in the order in which
the statement has their clauses. -/
theorem Query.inline_build_join :
    let visits : Query := .mk .sqlite
      [.setTable "visits", .named "v",
        .filter (.mapping ⟨[("page", .list [.scalar (.text "?"), .scalar (.text "it's")])]⟩) {}]
    let query : Query := .mk .generic
      [.setTable "users", .filter (.fragment ⟨"mark <> '?' AND age > ?", [.int 30]⟩) {}, .regroup .or,
        .filter (.id 7) { negated := true },
        .join (.subquery visits) .left (some (.condition "users.id" none (.scalar (.text "v.user"))))]
    ∃ s, query.build = .ok s ∧
      s.inline = "SELECT *\nFROM \"users\"\nLEFT JOIN ( SELECT *\nFROM \"visits\"\n" ++
        "WHERE \"page\" IN ('?', 'it''s') ) \"v\" ON \"users\".\"id\" = \"v\".\"user\"\n" ++
        "WHERE ( mark <> '?' AND age > 30 )\n\tOR ( NOT ( \"id\" = 7 ) )" := by
  intro visits query
  have wellQuoted : query.isWellQuoted = true := by decide +kernel
  have built : query.build = .ok ⟨.select,
      "SELECT *\nFROM \"users\"\nLEFT JOIN ( SELECT *\nFROM \"visits\"\n" ++
        "WHERE \"page\" IN (?, ?) ) \"v\" ON \"users\".\"id\" = \"v\".\"user\"\n" ++
        "WHERE ( mark <> '?' AND age > ? )\n\tOR ( NOT ( \"id\" = ? ) )",
      [.text "?", .text "it's", .int 30, .int 7]⟩ := by decide +kernel
  obtain ⟨reference, assembled, _, _, inlined⟩ := Query.inline_build wellQuoted built
  have written : query.written.build = .ok ⟨.select,
      "SELECT *\nFROM \"users\"\nLEFT JOIN ( SELECT *\nFROM \"visits\"\n" ++
        "WHERE \"page\" IN ('?', 'it''s') ) \"v\" ON \"users\".\"id\" = \"v\".\"user\"\n" ++
        "WHERE ( mark <> '?' AND age > 30 )\n\tOR ( NOT ( \"id\" = 7 ) )", []⟩ := by decide +kernel
  rw [written] at assembled
  cases assembled
  exact ⟨_, built, inlined⟩

end SqlAssembly
