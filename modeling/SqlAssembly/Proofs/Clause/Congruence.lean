import SqlAssembly.Clause.Comparison
import SqlAssembly.Clause.Rows
import SqlAssembly.Proofs.Identifier.Quoting

/-! # Clauses of two runs

A value enters a clause in one of three forms: bound to a placeholder, as SQL text or as
an identifier.  Tests, assignments and slots only differ in what they write around it, so
fields whose scalars are rendered as related fragments make related clauses.

* `FieldOptions.rendered` — a scalar under options, in any of the three forms.
* `Field.Alike` — fields that have one name and comparator and are rendered alike.
* `agree_fieldFragment`, `agree_mappingFragment`, `agree_rowsFragment` — what the clauses
  make of alike fields agrees.
-/

namespace SqlAssembly

/-! ## The three forms of a scalar -/

namespace FieldOptions

/-- Whether values are bound rather than written into the text. -/
def binds (options : FieldOptions) : Bool := !options.raw && !options.identity

/-- A scalar as text, under options that do not bind it. -/
def text (options : FieldOptions) (dialect : Dialect) (s : Scalar) : String :=
  if options.raw then s.plain else dialect.quoteIdentifier s.plain

/-- A scalar as it stands in a clause. -/
def rendered (options : FieldOptions) (dialect : Dialect) (s : Scalar) : Fragment :=
  if options.binds then ⟨dialect.placeholder, [s]⟩ else .raw (options.text dialect s)

theorem rendered_of_binds {options : FieldOptions} (binds : options.binds = true)
    (dialect : Dialect) (s : Scalar) : options.rendered dialect s = ⟨"?", [s]⟩ := if_pos binds

theorem rendered_of_raw {options : FieldOptions} (raw : options.raw = true) (dialect : Dialect)
    (s : Scalar) : options.rendered dialect s = .raw s.plain := by
  simp [rendered, binds, text, raw]

/-- Options that bind under those of a call bind by themselves. -/
theorem binds_of_merge {call options : FieldOptions} (merged : (call.merge options).binds = true) :
    options.binds = true := by
  simp only [binds, merge, Bool.not_or, Bool.and_eq_true] at merged ⊢
  exact ⟨merged.1.2, merged.2.2⟩

end FieldOptions

namespace Comparison

theorem scalar_eq (c : Comparison) (s : Scalar) :
    c.scalar s = (c.options.rendered c.dialect s).prefixed (c.column ++ " " ++ c.comparator ++ " ") := by
  by_cases binds : c.binds = true
  · rw [FieldOptions.rendered_of_binds binds]
    simp only [scalar, if_pos binds]
    rfl
  · have written : c.options.rendered c.dialect s = .raw (c.written s) := if_neg binds
    rw [written]
    simp only [scalar, if_neg binds]
    rfl

/-- The words between a column and the list that it is tested on. -/
def membershipKeyword (c : Comparison) : String :=
  if isNegativeComparator c.comparator then " NOT IN (" else " IN ("

theorem membership_eq (c : Comparison) (items : List Scalar) :
    c.membership items =
      let listed := Fragment.listed ", " (items.map (c.options.rendered c.dialect))
      ⟨c.column ++ c.membershipKeyword ++ listed.sql ++ ")", listed.params⟩ := by
  unfold membership membershipKeyword
  by_cases binds : c.binds = true
  · have slots : items.map (c.options.rendered c.dialect) = items.map fun s => ⟨"?", [s]⟩ :=
      List.map_congr_left fun s _ => FieldOptions.rendered_of_binds binds c.dialect s
    simp only [if_pos binds, slots]
    simp [Fragment.listed, Dialect.placeholder, Function.comp_def, List.flatMap_map]
  · have texts : items.map (c.options.rendered c.dialect) = (items.map c.written).map .raw := by
      rw [List.map_map]
      exact List.map_congr_left fun s _ => if_neg binds
    simp only [if_neg binds, texts, ← Fragment.raw_intercalate]
    rfl

end Comparison

/-- What a slot holds for a scalar. -/
def slotContent (dialect : Dialect) (options : FieldOptions) (s : Scalar) : Fragment :=
  if !options.raw && s.isNull then .raw "NULL" else options.rendered dialect s

theorem slotContent_eq (dialect : Dialect) (options : FieldOptions) (s : Scalar) :
    (if options.raw then return .raw s.plain
      else if s.isNull then return .raw "NULL"
      else if options.identity then return .raw (dialect.quoteIdentifier s.plain)
      else return ⟨dialect.placeholder, [s]⟩ : Except AssemblyError Fragment) =
      .ok (slotContent dialect options s) := by
  obtain ⟨raw, negated, identity, comparator⟩ := options
  cases raw <;> cases identity <;> cases null : s.isNull <;>
    simp [slotContent, FieldOptions.rendered, FieldOptions.binds, FieldOptions.text, null, pure,
      Except.pure]

/-! ## Alike values and fields -/

section

variable (rel : Fragment → Fragment → Prop) (dialect : Dialect)

/-- Elements of a list that are rendered as related fragments, or are no scalars. -/
inductive Item.Alike (options options' : FieldOptions) : Value → Value → Prop where
  | scalar {s s' : Scalar} : rel (options.rendered dialect s) (options'.rendered dialect s') →
      Item.Alike options options' (.scalar s) (.scalar s')
  | unbindable {value value' : Value} : value.scalar? = none → value'.scalar? = none →
      Item.Alike options options' value value'

/-- Values of one shape whose scalars are rendered as related fragments.  Null is only like
itself, because a test on null has words of its own. -/
inductive Value.Alike (options options' : FieldOptions) : Value → Value → Prop where
  | null : options = options' → Value.Alike options options' (.scalar .null) (.scalar .null)
  | scalar {s s' : Scalar} : s.isNull = false → s'.isNull = false →
      rel (options.rendered dialect s) (options'.rendered dialect s') →
      Value.Alike options options' (.scalar s) (.scalar s')
  | list {items items' : List Value} :
      List.Forall₂ (Item.Alike rel dialect options options') items items' →
      Value.Alike options options' (.list items) (.list items')
  | map (fields fields' : Fields Value) : Value.Alike options options' (.map fields) (.map fields')

/-- The scalars of a value: itself, or the elements of a list. -/
def Value.scalars : Value → List Scalar
  | .scalar s => [s]
  | .list items => items.filterMap Value.scalar?
  | .map _ => []

/-- Fields of one name and comparator whose values are rendered as related fragments. -/
structure IndicatedField.Alike (positional : Option String) (value value' : Value)
    (field field' : IndicatedField) : Prop where
  name : field.name = field'.name
  column : Admits rel (dialect.quoteIdentifier field.name)
  negated : field.options.negated = field'.options.negated
  comparator : field.options.comparator = field'.options.comparator
  compared : Admits rel ((field.options.comparator <|> positional).getD "=")
  contradictory : (field.options.raw && field.options.identity) =
    (field'.options.raw && field'.options.identity)
  value : Value.Alike rel dialect field.options field'.options value value'

/-- The field with its options under those of a call. -/
def IndicatedField.under (call : FieldOptions) (field : IndicatedField) : IndicatedField :=
  { field with options := call.merge field.options }

/-- Whether the value of a field is bound: the field can be read, and its options are neither
raw nor identity. -/
def bindsField (call : FieldOptions) (field : String) : Bool :=
  match IndicatedField.read field with
  | .ok indicated => (indicated.under call).options.binds
  | .error _ => false

/-- Fields with values that a clause turns into related fragments. -/
def Field.Alike (call : FieldOptions) (positional : Option String)
    (entry entry' : String × Value) : Prop :=
  Agree (fun field field' => IndicatedField.Alike rel dialect positional entry.2 entry'.2
    (field.under call) (field'.under call)) (IndicatedField.read entry.1) (IndicatedField.read entry'.1)

end

variable {rel : Fragment → Fragment → Prop} {dialect : Dialect} {call : FieldOptions}
  {positional : Option String}

/-- A value whose scalars may stand in related fragments is like itself. -/
theorem Value.Alike.same {options : FieldOptions} {value : Value}
    (allowed : ∀ s ∈ value.scalars, rel (options.rendered dialect s) (options.rendered dialect s)) :
    Value.Alike rel dialect options options value value := by
  cases value with
  | scalar s =>
    -- null needs nothing of the relation, because it is never rendered as bound
    cases isNull : s.isNull with
    | true =>
      cases s with
      | null => exact .null rfl
      | bool | int | float | text | blob => cases isNull
    | false => exact .scalar isNull isNull (allowed s (by simp [Value.scalars]))
  | list items =>
    refine .list (List.forall₂_same.mpr fun item member => ?_)
    cases item with
    | scalar s => exact .scalar (allowed s (List.mem_filterMap.mpr ⟨_, member, rfl⟩))
    | list | map => exact .unbindable rfl rfl
  | map fields => exact .map fields fields

theorem agree_resolve {entry entry' : String × Value}
    (alike : Field.Alike rel dialect call positional entry entry') :
    Agree (IndicatedField.Alike rel dialect positional entry.2 entry'.2)
      (IndicatedField.resolve entry.1 call) (IndicatedField.resolve entry'.1 call) := by
  refine alike.bind fun field field' related => ?_
  -- a field that is declared both SQL text and identifier is refused in both runs
  have contradictory := related.contradictory
  simp only [IndicatedField.under] at contradictory
  simp only [FieldOptions.check, contradictory]
  split
  · exact .refused _ _
  · exact .given related

theorem Agree.toScalars {options options' : FieldOptions} {items items' : List Value}
    (alike : List.Forall₂ (Item.Alike rel dialect options options') items items') :
    Agree (List.Forall₂ fun s s' => rel (options.rendered dialect s) (options'.rendered dialect s'))
      (Value.toScalars items) (Value.toScalars items') := by
  refine Agree.mapM (alike.imp fun value value' related => ?_)
  cases related with
  | scalar related => exact .given related
  | unbindable unbindable unbindable' =>
    have refused (v : Value) (unbindable : v.scalar? = none) :
        v.toScalar = .error (.nonScalarParameter v) := by
      cases v with
      | scalar s => cases unbindable
      | list items => rfl
      | map fields => rfl
    rw [refused value unbindable, refused value' unbindable']
    exact .refused _ _

/-! ## Tests and assignments -/

namespace Comparison

theorem test_scalar (c : Comparison) {s : Scalar} (notNull : s.isNull = false) :
    c.test (.scalar s) = .ok (c.scalar s) := by
  cases s <;> first | rfl | cases notNull

theorem assignment_scalar (c : Comparison) {s : Scalar} (notNull : s.isNull = false) :
    c.assignment (.scalar s) = .ok (c.scalar s) := by
  cases s <;> first | rfl | cases notNull

/-- Comparisons of one column by one comparator. -/
structure Alike (rel : Fragment → Fragment → Prop) (c c' : Comparison) : Prop where
  dialect : c.dialect = c'.dialect
  name : c.name = c'.name
  comparator : c.comparator = c'.comparator
  column : Admits rel c.column
  compared : Admits rel c.comparator

namespace Alike

variable {c c' : Comparison}

theorem columns (alike : Alike rel c c') : c'.column = c.column := by
  rw [Comparison.column, Comparison.column, alike.dialect, alike.name]

theorem scalar (congruence : Congruence rel) (alike : Alike rel c c') {s s' : Scalar}
    (related : rel (c.options.rendered c.dialect s) (c'.options.rendered c.dialect s')) :
    rel (c.scalar s) (c'.scalar s') := by
  have space : Admits rel " " := congruence.plain rfl
  rw [Comparison.scalar_eq, Comparison.scalar_eq, alike.columns, ← alike.comparator, ← alike.dialect]
  exact congruence.prefixed (congruence.admits_append (congruence.admits_append
    (congruence.admits_append alike.column space) alike.compared) space) related

theorem membership (congruence : Congruence rel) (alike : Alike rel c c') {items items' : List Scalar}
    (related : List.Forall₂ (fun s s' => rel (c.options.rendered c.dialect s)
      (c'.options.rendered c.dialect s')) items items') :
    rel (c.membership items) (c'.membership items') := by
  have keyword : Admits rel c.membershipKeyword := by
    unfold Comparison.membershipKeyword
    split <;> exact congruence.plain rfl
  have sameKeyword : c'.membershipKeyword = c.membershipKeyword := by
    rw [Comparison.membershipKeyword, Comparison.membershipKeyword, alike.comparator]
  rw [Comparison.membership_eq, Comparison.membership_eq, alike.columns, sameKeyword, ← alike.dialect]
  refine congruence.enclose (congruence.admits_append alike.column keyword) (congruence.plain rfl)
    (congruence.listed (congruence.plain rfl) ?_)
  rw [List.forall₂_map_left_iff, List.forall₂_map_right_iff]
  exact related

/-- Null written into the text, by options that do not bind it. -/
theorem null (congruence : Congruence rel) (alike : Alike rel c c') (same : c.options = c'.options)
    (written : c.binds = false) : rel (c.scalar .null) (c'.scalar .null) := by
  refine alike.scalar congruence ?_
  rw [← same]
  have unbound : c.options.rendered c.dialect .null = .raw (c.options.text c.dialect .null) :=
    if_neg (Bool.not_eq_true _ ▸ written)
  rw [unbound, FieldOptions.text]
  split
  · exact congruence.plain rfl
  · exact congruence.verbatim (Dialect.isVerbatim_quoteIdentifier (by cases c.dialect <;> rfl))

theorem test (congruence : Congruence rel) (alike : Alike rel c c') {value value' : Value}
    (values : Value.Alike rel c.dialect c.options c'.options value value') :
    Agree rel (c.test value) (c'.test value') := by
  cases values with
  | null same =>
    have binds : c'.binds = c.binds := by rw [Comparison.binds, Comparison.binds, same]
    simp only [Comparison.test, binds]
    -- a test on null has words of its own only where null would be bound
    by_cases bound : c.binds = true
    · rw [if_pos bound, if_pos bound, Comparison.nullTest, Comparison.nullTest, alike.columns,
        alike.comparator]
      refine .given (congruence.admits_append alike.column ?_)
      split <;> exact congruence.plain rfl
    · rw [if_neg bound, if_neg bound]
      exact .given (alike.null congruence same (by simpa using bound))
  | scalar notNull notNull' related =>
    rw [c.test_scalar notNull, c'.test_scalar notNull']
    exact .given (alike.scalar congruence related)
  | list items =>
    cases items with
    | nil => exact .refused _ _
    | cons head rest =>
      exact (Agree.toScalars (.cons head rest)).bind fun _ _ related =>
        .given (alike.membership congruence related)
  | map => exact .refused _ _

theorem assignment (congruence : Congruence rel) (alike : Alike rel c c') {value value' : Value}
    (values : Value.Alike rel c.dialect c.options c'.options value value') :
    Agree rel (c.assignment value) (c'.assignment value') := by
  cases values with
  | null same =>
    simp only [Comparison.assignment, ← same]
    by_cases raw : c.options.raw = true
    · rw [if_pos raw, if_pos raw]
      exact .given (alike.null congruence same (by simp [Comparison.binds, raw]))
    · rw [if_neg raw, if_neg raw, alike.columns]
      exact .given (congruence.admits_append alike.column (congruence.plain rfl))
  | scalar notNull notNull' related =>
    rw [c.assignment_scalar notNull, c'.assignment_scalar notNull']
    exact .given (alike.scalar congruence related)
  | list => exact .refused _ _
  | map => exact .refused _ _

end Alike

end Comparison

/-! ## Clauses of conditions and assignments -/

theorem IndicatedField.Alike.comparison {value value' : Value} {field field' : IndicatedField}
    (alike : IndicatedField.Alike rel dialect positional value value' field field') :
    Comparison.Alike rel
      ⟨dialect, field.name, (field.options.comparator <|> positional).getD "=", field.options⟩
      ⟨dialect, field'.name, (field'.options.comparator <|> positional).getD "=", field'.options⟩ where
  dialect := rfl
  name := alike.name
  comparator := by rw [alike.comparator]
  column := alike.column
  compared := alike.compared

/-- Alike fields are refused together by a clause, or become related fragments. -/
theorem agree_fieldFragment (congruence : Congruence rel) (clause : Clause)
    {entry entry' : String × Value}
    (alike : Field.Alike rel dialect call positional entry entry') :
    Agree rel (fieldFragment dialect clause call entry.1 positional entry.2)
      (fieldFragment dialect clause call entry'.1 positional entry'.2) := by
  refine (agree_resolve alike).bind fun field field' related => ?_
  have comparison := related.comparison
  simp only [← related.negated]
  by_cases conditions : clause.holdsConditions = true
  · rw [if_pos conditions, if_pos conditions]
    refine (comparison.test congruence related.value).bind fun f f' tests => ?_
    by_cases negated : field.options.negated = true
    · rw [if_pos negated, if_pos negated]
      exact .given (congruence.negate tests)
    · rw [if_neg negated, if_neg negated]
      exact .given tests
  · rw [if_neg conditions, if_neg conditions]
    split
    · exact .refused _ _
    · exact comparison.assignment congruence related.value

/-- Mappings whose fields are alike, in order. -/
def Row.Alike (rel : Fragment → Fragment → Prop) (dialect : Dialect) (call : FieldOptions)
    (row row' : Fields Value) : Prop :=
  List.Forall₂ (Field.Alike rel dialect call none) row.entries row'.entries

theorem agree_mappingFragment (congruence : Congruence rel) (clause : Clause)
    {fields fields' : Fields Value} (alike : Row.Alike rel dialect call fields fields') :
    Agree rel (mappingFragment dialect clause call fields)
      (mappingFragment dialect clause call fields') := by
  have fragments := Agree.mapM (alike.imp fun entry entry' related =>
    agree_fieldFragment congruence clause related)
  refine fragments.bind fun _ _ related => .given (congruence.join ?_ related)
  split <;> exact congruence.plain rfl

/-! ## Rows -/

theorem agree_rowColumns {row row' : Fields Value} (alike : Row.Alike rel dialect call row row') :
    Agree (List.Forall₂ fun column column' => column = column' ∧ Admits rel column)
      (rowColumns dialect row) (rowColumns dialect row') := by
  refine Agree.mapM ?_
  rw [Fields.keys, Fields.keys, List.forall₂_map_left_iff, List.forall₂_map_right_iff]
  refine alike.imp fun entry entry' related => related.bind fun field field' indicated => .given ?_
  have sameName : field.name = field'.name := indicated.name
  exact ⟨by rw [sameName], indicated.column⟩

theorem agree_slot (congruence : Congruence rel) {entry entry' : String × Value}
    (alike : Field.Alike rel dialect call none entry entry') :
    Agree rel (slot dialect call entry.1 entry.2) (slot dialect call entry'.1 entry'.2) := by
  refine (agree_resolve alike).bind fun field field' related => ?_
  obtain ⟨name, options⟩ := field
  obtain ⟨name', options'⟩ := field'
  have negated : options.negated = options'.negated := related.negated
  have values : Value.Alike rel dialect options options' entry.2 entry'.2 := related.value
  obtain ⟨field, value⟩ := entry
  obtain ⟨field', value'⟩ := entry'
  simp only [← negated]
  split
  · exact .refused _ _
  · cases values with
    | null same =>
      simp only [slotContent_eq, ← same]
      refine .given ?_
      unfold slotContent
      by_cases raw : options.raw = true
      · rw [if_neg (by simp [raw]), FieldOptions.rendered_of_raw raw]
        exact congruence.plain rfl
      · rw [if_pos (by simpa [Scalar.isNull] using raw)]
        exact congruence.plain rfl
    | scalar notNull notNull' rendered =>
      simp only [slotContent_eq]
      refine .given ?_
      rw [slotContent, slotContent, if_neg (by simp [notNull]), if_neg (by simp [notNull'])]
      exact rendered
    | list items => exact .refused _ _
    | map => exact .refused _ _

theorem agree_rowTuple (congruence : Congruence rel) {row row' : Fields Value}
    (alike : Row.Alike rel dialect call row row') :
    Agree rel (rowTuple dialect call row) (rowTuple dialect call row') := by
  have slots := Agree.mapM (alike.imp fun entry entry' related => agree_slot congruence related)
  refine slots.bind fun _ _ related => .given ?_
  exact congruence.enclose (congruence.plain rfl) (congruence.plain rfl)
    (congruence.listed (congruence.plain rfl) related)

theorem agree_rowsFragment (congruence : Congruence rel) {rows rows' : List (Fields Value)}
    (alike : List.Forall₂ (Row.Alike rel dialect call) rows rows') :
    Agree rel (rowsFragment dialect call rows) (rowsFragment dialect call rows') := by
  cases alike with
  | nil => exact .refused _ _
  | @cons first first' rest rest' head tail =>
    have comma : Admits rel ", " := congruence.plain rfl
    have tuples := Agree.mapM ((List.Forall₂.cons head tail).imp fun _ _ related =>
      agree_rowTuple congruence related)
    have sameEmptiness : first.isEmpty = first'.isEmpty := isEmpty_eq_of_forall₂ head
    simp only [rowsFragment, sameEmptiness]
    split
    · exact .refused _ _
    · refine (agree_rowColumns head).bind fun columns columns' columnsRelated => ?_
      refine tuples.bind fun _ _ tuplesRelated => .given ?_
      -- columns are text without parameters, so those of the two runs are equal
      have sameColumns : columns = columns' :=
        List.forall₂_eq_eq_eq ▸ columnsRelated.imp fun _ _ pair => pair.1
      have allowed : ∀ column ∈ columns, Admits rel column := by
        rw [← sameColumns] at columnsRelated
        exact fun column member => (List.forall₂_same.mp columnsRelated column member).2
      have front := congruence.admits_append (congruence.admits_append
        (congruence.plain (t := "(") rfl) (congruence.admits_intercalate comma allowed))
        (congruence.plain (t := ")\nVALUES ") rfl)
      rw [← sameColumns]
      exact congruence.prefixed front (congruence.listed comma tuplesRelated)

/-- A comparator that an insert takes decides nothing. -/
theorem Field.Alike.unpositioned {entry entry' : String × Value}
    (alike : Field.Alike rel dialect call positional entry entry')
    (neutral : positional = none ∨ positional = some "=") :
    Field.Alike rel dialect call none entry entry' := by
  refine alike.mono fun field field' related => { related with compared := ?_ }
  have compared := related.compared
  rcases neutral with rfl | rfl
  · exact compared
  · cases comparator : (field.under call).options.comparator with
    | none => simpa [comparator] using compared
    | some other => simpa [comparator] using compared

end SqlAssembly
