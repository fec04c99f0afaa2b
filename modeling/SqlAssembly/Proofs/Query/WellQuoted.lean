import SqlAssembly.Proofs.Query.Congruence

/-! # Well-quoted queries

Some texts of a caller go into the statement as they are: literals, fragments, values of
raw fields, comparators, tokens and the words of joins.  A query is *well quoted* when
each of them is closed and has no placeholder but those of its own parameters.  Names and
values need no such care, because they are quoted or bound; only a dialect that leaves
dotted names bare asks that these hold no mark.

The predicate is computed along the query, under the options that its clauses see.
-/

namespace SqlAssembly

/-! ## Values and fields -/

/-- Whether a scalar is safe to write under options: SQL text has to be verbatim, an identifier
has to stay inside its quotes, and a bound scalar may be anything. -/
def FieldOptions.isWellQuoted (options : FieldOptions) (dialect : Dialect) (s : Scalar) : Bool :=
  if options.raw then decide (IsVerbatim s.plain)
  else if options.identity then dialect.quotesSafely s.plain
  else true

/-- Whether a field is well quoted: its name, its comparator and the scalars of its value. -/
def IndicatedField.isWellQuoted (dialect : Dialect) (positional : Option String) (value : Value)
    (field : IndicatedField) : Bool :=
  dialect.quotesSafely field.name &&
    decide (IsVerbatim ((field.options.comparator <|> positional).getD "=")) &&
    value.scalars.all (field.options.isWellQuoted dialect)

/-- Whether a field as the caller wrote it is well quoted; one that cannot be read refuses the
statement. -/
def Field.isWellQuoted (dialect : Dialect) (call : FieldOptions) (positional : Option String)
    (entry : String × Value) : Bool :=
  match IndicatedField.read entry.1 with
  | .ok field => (field.under call).isWellQuoted dialect positional entry.2
  | .error _ => true

/-- Whether all fields of a mapping are well quoted. -/
def Row.isWellQuoted (dialect : Dialect) (call : FieldOptions) (row : Fields Value) : Bool :=
  row.entries.all (Field.isWellQuoted dialect call none)

/-! ## Steps -/

/-- Whether the text of a selection is verbatim, or its fragment balanced. -/
def Selection.isWellQuoted : Selection → Bool
  | .expression text => decide (IsVerbatim text)
  | .columns tokens => tokens.all fun token => decide (IsVerbatim token)
  | .fragment f => decide f.IsBalanced

/-- Whether the fragment that a source stands for is balanced. -/
def FragmentSource.isWellQuoted (source : FragmentSource) : Bool :=
  match Fragment.conform source .newline with
  | .ok f => decide f.IsBalanced
  | .error _ => true

mutual

/-- Whether an input under the options of a call is well quoted. -/
def Input.isWellQuoted (dialect : Dialect) : Input → FieldOptions → Bool
  | .overridden input options, call => input.isWellQuoted dialect (call.merge options)
  | .literal sql, _ => decide (IsVerbatim sql)
  | .fragment f, _ => decide f.IsBalanced
  | .subquery query, _ => query.isWellQuoted
  | .id n, call => Field.isWellQuoted dialect call none ("id", .scalar (.int n))
  | .condition field comparator value, call =>
    Field.isWellQuoted dialect call comparator (field, value)
  | .mapping fields, call => Row.isWellQuoted dialect call fields
  | .rows rows, call => rows.all (Row.isWellQuoted dialect call)

/-- Whether a joined table is verbatim, or a joined query well quoted. -/
def JoinTarget.isWellQuoted : JoinTarget → Bool
  | .table token => decide (IsVerbatim token)
  | .subquery query => query.isWellQuoted

/-- Whether a step is well quoted. -/
def Step.isWellQuoted (dialect : Dialect) : Step → Bool
  | .filter input options => input.isWellQuoted dialect options
  | .having input => input.isWellQuoted dialect {}
  | .select selection => selection.isWellQuoted
  | .setTable token => decide (IsVerbatim token)
  | .addTable token => decide (IsVerbatim token)
  | .setSubquery query => query.isWellQuoted
  | .named name => dialect.quotesSafely name
  | .join target kind on =>
    target.isWellQuoted && kind.isWellQuoted &&
      match on with
      | none => true
      | some input => input.isWellQuoted dialect { identity := true }
  | .joinRaw source => source.isWellQuoted
  | .order text => decide (IsVerbatim text)
  | .group token => decide (IsVerbatim token)
  | .insert rows => rows.isWellQuoted dialect {}
  | .replace rows => rows.isWellQuoted dialect {}
  | .insertIgnore rows => rows.isWellQuoted dialect {}
  | .upsert rows changes => rows.isWellQuoted dialect {} && changes.isWellQuoted dialect {}
  | .update changes => changes.isWellQuoted dialect {}
  | .refuse _ => true
  | .regroup _ => true
  | .limit _ => true
  | .offset _ => true
  | .lock _ => true
  | .risky => true
  | .delete => true

/-- Whether all steps are well quoted. -/
def Step.allWellQuoted (dialect : Dialect) : List Step → Bool
  | [] => true
  | step :: steps => step.isWellQuoted dialect && Step.allWellQuoted dialect steps

/-- Whether all texts that a query writes as they are are closed and balanced, those of its
subqueries included. -/
def Query.isWellQuoted : Query → Bool
  | .mk dialect steps => Step.allWellQuoted dialect steps

end

end SqlAssembly
