import SqlAssembly.Proofs.Query.Congruence

/-! # Bound values do not reach the text

A scalar is bound when it is the value of a field whose options are neither raw nor
identity, an element of a list given to such a field, or a parameter of a caller's
fragment.  Two queries are *rebound* when they are equal but for their bound
scalars.  They are refused together, or give one text: all that a bound scalar decides is
a parameter.

* `Query.Rebound` — queries that are equal but for their bound scalars.
* `Query.Rebound.agree` — their statements have one text and related parameters.
-/

namespace SqlAssembly

/-! ## Replaced scalars -/

section

variable (R : Scalar → Scalar → Prop)

/-- Fragments of one text with replaced parameters. -/
structure Fragment.Rebound (f f' : Fragment) : Prop where
  sql : f.sql = f'.sql
  params : List.Forall₂ R f.params f'.params

/-- Elements of a list, each replaced if it is a scalar. -/
inductive Item.Rebound : Value → Value → Prop where
  | scalar {s s' : Scalar} : R s s' → Item.Rebound (.scalar s) (.scalar s')
  | unbindable {value : Value} : value.scalar? = none → Item.Rebound value value

/-- Values of a field that is bound.  Null stays null, and anything else does not become null. -/
inductive Value.Rebound : Value → Value → Prop where
  | null : Value.Rebound (.scalar .null) (.scalar .null)
  | scalar {s s' : Scalar} : s.isNull = false → s'.isNull = false → R s s' →
      Value.Rebound (.scalar s) (.scalar s')
  | list {items items' : List Value} : List.Forall₂ (Item.Rebound R) items items' →
      Value.Rebound (.list items) (.list items')
  | map (fields : Fields Value) : Value.Rebound (.map fields) (.map fields)

/-- A field whose value is replaced if it is bound. -/
structure Field.Rebound (call : FieldOptions) (entry entry' : String × Value) :
    Prop where
  field : entry.1 = entry'.1
  bound : bindsField call entry.1 = true → Value.Rebound R entry.2 entry'.2
  unbound : bindsField call entry.1 = false → entry.2 = entry'.2

/-- Mappings with the same fields, in order, each of them replaced if it is bound. -/
def Row.Rebound (call : FieldOptions) (row row' : Fields Value) : Prop :=
  List.Forall₂ (Field.Rebound R call) row.entries row'.entries

/-- Elements of a sequence with replaced parameters. -/
inductive Part.Rebound : Part → Part → Prop where
  | sql (text : String) : Part.Rebound (.sql text) (.sql text)
  | params {values values' : List Value} : List.Forall₂ (Item.Rebound R) values values' →
      Part.Rebound (.params values) (.params values')
  | fragment {f f' : Fragment} : Fragment.Rebound R f f' →
      Part.Rebound (.fragment f) (.fragment f')

inductive FragmentSource.Rebound : FragmentSource → FragmentSource → Prop where
  | text (sql : String) : FragmentSource.Rebound (.text sql) (.text sql)
  | parts {parts parts' : List Part} : List.Forall₂ (Part.Rebound R) parts parts' →
      FragmentSource.Rebound (.parts parts) (.parts parts')
  | fragment {f f' : Fragment} : Fragment.Rebound R f f' →
      FragmentSource.Rebound (.fragment f) (.fragment f')

inductive Selection.Rebound : Selection → Selection → Prop where
  | expression (text : String) : Selection.Rebound (.expression text) (.expression text)
  | columns (tokens : List String) : Selection.Rebound (.columns tokens) (.columns tokens)
  | fragment {f f' : Fragment} : Fragment.Rebound R f f' →
      Selection.Rebound (.fragment f) (.fragment f')

end

/-- Whether a step has no place for a bound scalar. -/
def Step.isUnbound : Step → Bool
  | .refuse _ | .regroup _ | .setTable _ | .addTable _ | .named _ | .order _ | .group _ | .limit _
  | .offset _ | .lock _ | .risky | .delete => true
  | _ => false

mutual

/-- Inputs under the options of a call that are equal but for bound scalars. -/
inductive Input.Rebound (R : Scalar → Scalar → Prop) : FieldOptions → Input → Input → Prop where
  | literal {call : FieldOptions} (sql : String) :
      Input.Rebound R call (.literal sql) (.literal sql)
  | mapping {call : FieldOptions} {fields fields' : Fields Value} :
      Row.Rebound R call fields fields' →
      Input.Rebound R call (.mapping fields) (.mapping fields')
  | rows {call : FieldOptions} {rows rows' : List (Fields Value)} :
      List.Forall₂ (Row.Rebound R call) rows rows' →
      Input.Rebound R call (.rows rows) (.rows rows')
  | condition {call : FieldOptions} {field : String} (comparator : Option String)
      {value value' : Value} : Field.Rebound R call (field, value) (field, value') →
      Input.Rebound R call (.condition field comparator value)
        (.condition field comparator value')
  | id {call : FieldOptions} {n n' : Int} :
      Field.Rebound R call ("id", .scalar (.int n)) ("id", .scalar (.int n')) →
      Input.Rebound R call (.id n) (.id n')
  | subquery {call : FieldOptions} {query query' : Query} :
      Query.Rebound R query query' → Input.Rebound R call (.subquery query) (.subquery query')
  | fragment {call : FieldOptions} {f f' : Fragment} : Fragment.Rebound R f f' →
      Input.Rebound R call (.fragment f) (.fragment f')
  | overridden {call : FieldOptions} {input input' : Input} (options : FieldOptions) :
      Input.Rebound R (call.merge options) input input' →
      Input.Rebound R call (.overridden input options) (.overridden input' options)

inductive JoinTarget.Rebound (R : Scalar → Scalar → Prop) : JoinTarget → JoinTarget → Prop where
  | table (token : String) : JoinTarget.Rebound R (.table token) (.table token)
  | subquery {query query' : Query} : Query.Rebound R query query' →
      JoinTarget.Rebound R (.subquery query) (.subquery query')

/-- Steps that are equal but for bound scalars. -/
inductive Step.Rebound (R : Scalar → Scalar → Prop) : Step → Step → Prop where
  | unchanged {step : Step} : step.isUnbound = true → Step.Rebound R step step
  | filter {input input' : Input} (options : FieldOptions) :
      Input.Rebound R options input input' →
      Step.Rebound R (.filter input options) (.filter input' options)
  | having {input input' : Input} : Input.Rebound R {} input input' →
      Step.Rebound R (.having input) (.having input')
  | select {selection selection' : Selection} : Selection.Rebound R selection selection' →
      Step.Rebound R (.select selection) (.select selection')
  | setSubquery {query query' : Query} : Query.Rebound R query query' →
      Step.Rebound R (.setSubquery query) (.setSubquery query')
  | join {target target' : JoinTarget} (kind : JoinKind) : JoinTarget.Rebound R target target' →
      Step.Rebound R (.join target kind none) (.join target' kind none)
  | joinOn {target target' : JoinTarget} (kind : JoinKind) {on on' : Input} :
      JoinTarget.Rebound R target target' → Input.Rebound R { identity := true } on on' →
      Step.Rebound R (.join target kind (some on)) (.join target' kind (some on'))
  | joinRaw {source source' : FragmentSource} : FragmentSource.Rebound R source source' →
      Step.Rebound R (.joinRaw source) (.joinRaw source')
  | insert {rows rows' : Input} : Input.Rebound R {} rows rows' →
      Step.Rebound R (.insert rows) (.insert rows')
  | replace {rows rows' : Input} : Input.Rebound R {} rows rows' →
      Step.Rebound R (.replace rows) (.replace rows')
  | insertIgnore {rows rows' : Input} : Input.Rebound R {} rows rows' →
      Step.Rebound R (.insertIgnore rows) (.insertIgnore rows')
  | upsert {rows rows' changes changes' : Input} : Input.Rebound R {} rows rows' →
      Input.Rebound R {} changes changes' →
      Step.Rebound R (.upsert rows changes) (.upsert rows' changes')
  | update {changes changes' : Input} : Input.Rebound R {} changes changes' →
      Step.Rebound R (.update changes) (.update changes')

/-- Queries of one dialect that are equal but for bound scalars, those of subqueries too. -/
inductive Query.Rebound (R : Scalar → Scalar → Prop) : Query → Query → Prop where
  | mk (dialect : Dialect) {steps steps' : List Step} : List.Forall₂ (Step.Rebound R) steps steps' →
      Query.Rebound R (.mk dialect steps) (.mk dialect steps')

end

variable {R : Scalar → Scalar → Prop}

/-! ## The relation is a congruence -/

/-- Texts without parameters are only like themselves. -/
theorem Fragment.Rebound.raw (t : String) : Fragment.Rebound R (.raw t) (.raw t) := ⟨rfl, .nil⟩

theorem congruence_rebound : Congruence (Fragment.Rebound R) where
  verbatim _ := .raw _
  concat left right := by
    refine ⟨?_, List.rel_append left.params right.params⟩
    rw [Fragment.sql_append, Fragment.sql_append, left.sql, right.sql]
  isEmpty related := by rw [related.sql]
  isBlank related := by rw [Fragment.isBlank, Fragment.isBlank, related.sql]

/-! ## Rebound input is alike -/

variable {dialect : Dialect} {call : FieldOptions}

theorem Item.Rebound.alike {options : FieldOptions} (binds : options.binds = true)
    {value value' : Value} (rebound : Item.Rebound R value value') :
    Item.Alike (Fragment.Rebound R) dialect options options value value' := by
  cases rebound with
  | scalar related =>
    refine .scalar ?_
    rw [FieldOptions.rendered_of_binds binds, FieldOptions.rendered_of_binds binds]
    exact ⟨rfl, .cons related .nil⟩
  | unbindable unbindable => exact .unbindable unbindable unbindable

theorem Value.Rebound.alike {options : FieldOptions} (binds : options.binds = true)
    {value value' : Value} (rebound : Value.Rebound R value value') :
    Value.Alike (Fragment.Rebound R) dialect options options value value' := by
  cases rebound with
  | null => exact .null rfl
  | scalar notNull notNull' related =>
    refine .scalar notNull notNull' ?_
    rw [FieldOptions.rendered_of_binds binds, FieldOptions.rendered_of_binds binds]
    exact ⟨rfl, .cons related .nil⟩
  | list items => exact .list (items.imp fun _ _ item => item.alike binds)
  | map fields => exact .map fields fields

/-- A field keeps its place in the text: if it is bound its values are rendered as
placeholders, and if it is not it has not been changed. -/
theorem Field.Rebound.alike {entry entry' : String × Value}
    (rebound : Field.Rebound R call entry entry') (positional : Option String) :
    Field.Alike (Fragment.Rebound R) dialect call positional entry entry' := by
  obtain ⟨field, value⟩ := entry
  obtain ⟨field', value'⟩ := entry'
  obtain ⟨sameField, bound, unbound⟩ := rebound
  simp only at sameField bound unbound
  subst sameField
  unfold Field.Alike
  unfold bindsField at bound unbound
  cases read : IndicatedField.read field with
  | error e => exact .refused e e
  | ok indicated =>
    simp only [read] at bound unbound
    -- name, comparator and options are read off the field, which has not been replaced
    refine .given ⟨rfl, .raw _, rfl, rfl, .raw _, rfl, ?_⟩
    cases binds : (indicated.under call).options.binds with
    | true => exact (bound binds).alike binds
    | false =>
      have same := unbound binds
      subst same
      refine .same fun s _ => ?_
      rw [FieldOptions.rendered, if_neg (by simp [binds])]
      exact .raw _

theorem Row.Rebound.alike {row row' : Fields Value} (rebound : Row.Rebound R call row row') :
    Row.Alike (Fragment.Rebound R) dialect call row row' :=
  List.Forall₂.imp (fun _ _ entry => entry.alike none) rebound

theorem Part.Rebound.texts {part part' : Part} (rebound : Part.Rebound R part part') :
    part.texts = part'.texts := by
  cases rebound with
  | sql text => rfl
  | params _ => rfl
  | fragment related => rw [Part.texts, Part.texts, related.sql]

theorem Part.Rebound.parameters {part part' : Part} (rebound : Part.Rebound R part part') :
    Agree (List.Forall₂ R) part.parameters part'.parameters := by
  cases rebound with
  | sql text => exact .given .nil
  | fragment related => exact .given related.params
  | params values =>
    -- parameters of a sequence are bound as those of a field without options are
    have binds : FieldOptions.none.binds = true := rfl
    have items := values.imp fun value value' (item : Item.Rebound R value value') =>
      (item.alike binds : Item.Alike _ .generic _ _ value value')
    refine (Agree.toScalars items).mono fun params params' related =>
      related.imp fun s s' rendered => ?_
    cases rendered.params with
    | cons head _ => exact head

theorem FragmentSource.Rebound.conform {source source' : FragmentSource}
    (rebound : FragmentSource.Rebound R source source') (combinator : Combinator) :
    Agree (Fragment.Rebound R) (Fragment.conform source combinator)
      (Fragment.conform source' combinator) := by
  cases rebound with
  | text sql => exact .given (.raw sql)
  | fragment related => exact .given related
  | @parts parts parts' related =>
    have texts : parts.flatMap Part.texts = parts'.flatMap Part.texts := by
      have each : parts.map Part.texts = parts'.map Part.texts := by
        rw [← List.forall₂_eq_eq_eq, List.forall₂_map_left_iff, List.forall₂_map_right_iff]
        exact related.imp fun _ _ part => part.texts
      rw [List.flatMap_def, List.flatMap_def, each]
    have parameters := Agree.mapM (related.imp fun _ _ part => part.parameters)
    refine parameters.bind fun params params' each => .given ⟨?_, List.rel_flatten each⟩
    rw [texts]

theorem Selection.Rebound.alike {selection selection' : Selection}
    (rebound : Selection.Rebound R selection selection') :
    Selection.Alike (Fragment.Rebound R) dialect selection selection' := by
  cases rebound with
  | expression text => exact .expression (.raw _)
  | columns tokens => exact .columns fun _ _ => .raw _
  | fragment related => exact .fragment related

/-- A step without a place for a bound scalar is like itself. -/
theorem Step.alike_of_isUnbound {step : Step} (unbound : step.isUnbound = true) :
    Step.Alike (Fragment.Rebound R) dialect step step := by
  cases step with
  | refuse error => exact .refuse error
  | regroup connective => exact .regroup connective
  | setTable token => exact .setTable (.raw _)
  | addTable token => exact .addTable (.raw _)
  | named name => exact .named (.raw _)
  | order text => exact .order (.raw _)
  | group token => exact .group (.raw _)
  | limit count => exact .limit count
  | offset count => exact .offset count
  | lock mode => exact .lock mode
  | risky => exact .risky
  | delete => exact .delete
  | _ => cases unbound

mutual

theorem Input.Rebound.alike (dialect : Dialect) (clause : Clause) :
    ∀ (input input' : Input) (call : FieldOptions), Input.Rebound R call input input' →
      Input.Alike (Fragment.Rebound R) dialect clause call input input'
  | .literal sql, _, _, rebound => by
    cases rebound with
    | literal => exact .literal (.raw sql)
  | .mapping _, _, _, rebound => by
    cases rebound with
    | mapping fields => exact .mapping fields.alike
  | .rows _, _, _, rebound => by
    cases rebound with
    | rows rows => exact .rows (rows.imp fun _ _ row => row.alike)
  | .condition _ comparator _, _, _, rebound => by
    cases rebound with
    | condition _ field => exact .condition (field.alike comparator)
  | .id _, _, _, rebound => by
    cases rebound with
    | id field => exact .id (field.alike none)
  | .subquery query, _, _, rebound => by
    cases rebound with
    | subquery queries => exact .subquery (Query.Rebound.agree query _ queries)
  | .fragment _, _, _, rebound => by
    cases rebound with
    | fragment related => exact .fragment related
  | .overridden input options, _, _, rebound => by
    cases rebound with
    | overridden _ inputs => exact .overridden (Input.Rebound.alike dialect clause input _ _ inputs)
termination_by structural input => input

theorem JoinTarget.Rebound.alike (dialect : Dialect) :
    ∀ target target' : JoinTarget, JoinTarget.Rebound R target target' →
      JoinTarget.Alike (Fragment.Rebound R) dialect target target'
  | .table _, _, rebound => by
    cases rebound with
    | table token => exact .table (.raw _)
  | .subquery query, _, rebound => by
    cases rebound with
    | subquery queries => exact .subquery (Query.Rebound.agree query _ queries)
termination_by structural target => target

theorem Step.Rebound.alike (dialect : Dialect) :
    ∀ step step' : Step, Step.Rebound R step step' →
      Step.Alike (Fragment.Rebound R) dialect step step'
  | .filter input _, _, rebound => by
    cases rebound with
    | unchanged unbound => cases unbound
    | filter _ inputs => exact .filter (Input.Rebound.alike dialect .filter input _ _ inputs)
  | .having input, _, rebound => by
    cases rebound with
    | unchanged unbound => cases unbound
    | having inputs => exact .having (Input.Rebound.alike dialect .having input _ _ inputs)
  | .select _, _, rebound => by
    cases rebound with
    | unchanged unbound => cases unbound
    | select selections => exact .select selections.alike
  | .setSubquery query, _, rebound => by
    cases rebound with
    | unchanged unbound => cases unbound
    | setSubquery queries => exact .setSubquery (Query.Rebound.agree query _ queries)
  | .join target _ none, _, rebound => by
    cases rebound with
    | unchanged unbound => cases unbound
    | join _ targets =>
      exact .join (JoinTarget.Rebound.alike dialect target _ targets) (.raw _) .none
  | .join target _ (some on), _, rebound => by
    cases rebound with
    | unchanged unbound => cases unbound
    | joinOn _ targets conditions =>
      exact .join (JoinTarget.Rebound.alike dialect target _ targets) (.raw _)
        (.some (Input.Rebound.alike dialect .filter on _ _ conditions))
  | .joinRaw _, _, rebound => by
    cases rebound with
    | unchanged unbound => cases unbound
    | joinRaw sources => exact .joinRaw (sources.conform .newline)
  | .insert rows, _, rebound => by
    cases rebound with
    | unchanged unbound => cases unbound
    | insert inputs => exact .insert (Input.Rebound.alike dialect .insert rows _ _ inputs)
  | .replace rows, _, rebound => by
    cases rebound with
    | unchanged unbound => cases unbound
    | replace inputs => exact .replace (Input.Rebound.alike dialect .insert rows _ _ inputs)
  | .insertIgnore rows, _, rebound => by
    cases rebound with
    | unchanged unbound => cases unbound
    | insertIgnore inputs =>
      exact .insertIgnore (Input.Rebound.alike dialect .insert rows _ _ inputs)
  | .upsert rows changes, _, rebound => by
    cases rebound with
    | unchanged unbound => cases unbound
    | upsert rowInputs changeInputs =>
      exact .upsert (Input.Rebound.alike dialect .insert rows _ _ rowInputs)
        (Input.Rebound.alike dialect .update changes _ _ changeInputs)
  | .update changes, _, rebound => by
    cases rebound with
    | unchanged unbound => cases unbound
    | update inputs => exact .update (Input.Rebound.alike dialect .update changes _ _ inputs)
  | .refuse _, _, rebound | .regroup _, _, rebound | .setTable _, _, rebound
  | .addTable _, _, rebound | .named _, _, rebound | .order _, _, rebound | .group _, _, rebound
  | .limit _, _, rebound | .offset _, _, rebound | .lock _, _, rebound | .risky, _, rebound
  | .delete, _, rebound => by
    cases rebound with
    | unchanged unbound => exact Step.alike_of_isUnbound unbound
termination_by structural step => step

theorem Step.Rebound.alikeAll (dialect : Dialect) :
    ∀ steps steps' : List Step, List.Forall₂ (Step.Rebound R) steps steps' →
      List.Forall₂ (Step.Alike (Fragment.Rebound R) dialect) steps steps'
  | [], _, rebound => by
    cases rebound
    exact .nil
  | step :: steps, _, rebound => by
    cases rebound with
    | cons head rest =>
      exact .cons (Step.Rebound.alike dialect step _ head)
        (Step.Rebound.alikeAll dialect steps _ rest)
termination_by structural steps => steps

/-- Rebound queries are refused together, or have statements of one text. -/
theorem Query.Rebound.agree :
    ∀ query query' : Query, Query.Rebound R query query' →
      Agree (Statement.Alike (Fragment.Rebound R)) query.build query'.build
  | .mk dialect steps, _, rebound => by
    cases rebound with
    | mk _ all =>
      exact agree_build congruence_rebound (Step.Rebound.alikeAll dialect steps _ all)
termination_by structural query => query

end

/-- **Noninterference.**  Of two queries that are equal but for their bound scalars, one has a
statement exactly when the other has one.  The statements are of one kind and have the same text,
and their parameters differ position by position by the replacements. -/
theorem Query.build_noninterference {query query' : Query} (rebound : Query.Rebound R query query') :
    ((∃ s, query.build = .ok s) ↔ ∃ s', query'.build = .ok s') ∧
      ∀ s s', query.build = .ok s → query'.build = .ok s' →
        s.kind = s'.kind ∧ s.sql = s'.sql ∧ s.params.length = s'.params.length ∧
          List.Forall₂ R s.params s'.params := by
  have agree := rebound.agree
  generalize query.build = result at agree ⊢
  generalize query'.build = result' at agree ⊢
  cases agree with
  | refused e e' =>
    refine ⟨⟨fun ⟨s, built⟩ => (nomatch built), fun ⟨s, built⟩ => (nomatch built)⟩, ?_⟩
    intro s s' built _
    cases built
  | @given a a' alike =>
    refine ⟨⟨fun _ => ⟨a', rfl⟩, fun _ => ⟨a, rfl⟩⟩, ?_⟩
    intro s s' built built'
    cases built
    cases built'
    exact ⟨alike.kind, alike.fragment.sql, alike.fragment.params.length_eq, alike.fragment.params⟩

/-- A join with a subquery of another dialect: the second run puts a quote, a question mark and null
in place of the values of the first, and only the parameters follow. -/
theorem Query.build_noninterference_join :
    let orders (first second : Scalar) : Query := .mk .sqlite
      [.setTable "orders", .filter (.condition "state" (some "!=") (.list [.scalar first, .scalar second])) {}]
    let users (name first second : Scalar) : Query := .mk .mysql
      [.setTable "users",
        .filter (.mapping ⟨[("name", .scalar name), ("\"age", .scalar (.int 18))]⟩) { negated := true },
        .join (.subquery (orders first second)) .left none]
    ∃ s', (users (.text "' OR 1=1 --") .null (.text "?")).build = .ok s' ∧
      s'.sql = "SELECT *\nFROM \x60users\x60\nLEFT JOIN SELECT *\nFROM \"orders\"\n" ++
        "WHERE \"state\" NOT IN (?, ?)\nWHERE NOT ( \x60name\x60 = ? )\n\tAND NOT ( \x60age\x60 = 18 )" ∧
      s'.params = [.null, .text "?", .text "' OR 1=1 --"] := by
  intro orders users
  have rebound : Query.Rebound
      (fun s s' => (s, s') ∈ [(.int 1, .null), (.int 2, .text "?"), (.text "ann", .text "' OR 1=1 --")])
      (users (.text "ann") (.int 1) (.int 2)) (users (.text "' OR 1=1 --") .null (.text "?")) := by
    have state : bindsField {} "state" = true := by decide
    have name : bindsField { negated := true } "name" = true := by decide
    have age : bindsField { negated := true } "\"age" = false := by decide
    refine .mk .mysql (.cons (.unchanged rfl) (.cons (.filter _ (.mapping ?_))
      (.cons (.join .left (.subquery (.mk .sqlite ?_))) .nil)))
    · refine .cons ⟨rfl, fun _ => .scalar rfl rfl (by simp), ?_⟩
        (.cons ⟨rfl, ?_, fun _ => rfl⟩ .nil)
      · exact fun unbound => absurd (name.symm.trans unbound) (by decide)
      · exact fun bound => absurd (age.symm.trans bound) (by decide)
    · refine .cons (.unchanged rfl) (.cons (.filter _ (.condition _ ⟨rfl, fun _ => ?_, ?_⟩)) .nil)
      · exact .list (.cons (.scalar (by simp)) (.cons (.scalar (by simp)) .nil))
      · exact fun unbound => absurd (state.symm.trans unbound) (by decide)
  have built : (users (.text "ann") (.int 1) (.int 2)).build = .ok ⟨.select,
      "SELECT *\nFROM \x60users\x60\nLEFT JOIN SELECT *\nFROM \"orders\"\n" ++
        "WHERE \"state\" NOT IN (?, ?)\nWHERE NOT ( \x60name\x60 = ? )\n\tAND NOT ( \x60age\x60 = 18 )",
      [.int 1, .int 2, .text "ann"]⟩ := by decide +kernel
  obtain ⟨succeeds, same⟩ := Query.build_noninterference rebound
  obtain ⟨s', built'⟩ := succeeds.mp ⟨_, built⟩
  obtain ⟨_, sql, _, params⟩ := same _ _ built built'
  refine ⟨s', built', sql.symm, ?_⟩
  match s'.params, params with
  | [_, _, _], .cons first (.cons second (.cons third .nil)) =>
    simp at first second third
    rw [first, second, third]

end SqlAssembly
