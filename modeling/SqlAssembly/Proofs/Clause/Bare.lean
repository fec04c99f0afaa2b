import SqlAssembly.Proofs.Clause.Congruence
import SqlAssembly.Proofs.Identifier.Bare
import SqlAssembly.Proofs.Success

/-! # Fields that stay bare

A field adds four things to a clause: the name of its column, its comparator, its scalars and words
of the clause itself.  A comparator that the caller gave stays bare, a scalar does as SQL text, and a
name does in a dialect that leaves it so.  A clause is silent when these texts are.

* `FieldOptions.bareTexts`, `IndicatedField.bareTexts`, `Field.bareTexts`, `Row.bareTexts` — the bare
  texts of scalars, fields and mappings.
* `isSilent_fieldFragment`, `isSilent_mappingFragment`, `isSilent_rowsFragment` — clauses.
-/

namespace SqlAssembly

variable {dialect : Dialect} {call : FieldOptions} {positional : Option String}

/-! ## Scalars -/

/-- What stays bare of a scalar: SQL text, or an identifier that the dialect does not quote. -/
def FieldOptions.bareTexts (options : FieldOptions) (dialect : Dialect) (s : Scalar) : List String :=
  if options.raw then [s.plain]
  else if options.identity then dialect.bareName s.plain
  else []

theorem FieldOptions.isSilent_rendered {options : FieldOptions} {s : Scalar}
    (silent : ∀ text ∈ options.bareTexts dialect s, IsSilent text) :
    IsSilent (options.rendered dialect s).sql := by
  unfold FieldOptions.bareTexts at silent
  cases binds : options.binds with
  | true =>
    rw [FieldOptions.rendered_of_binds binds]
    exact (by decide : IsSilent "?")
  | false =>
    rw [FieldOptions.rendered, if_neg (by simp [binds]), FieldOptions.text]
    split
    · rename_i raw
      rw [if_pos raw] at silent
      exact silent _ List.mem_cons_self
    · rename_i written
      have identity : options.identity = true := by simpa [FieldOptions.binds, written] using binds
      rw [if_neg written, if_pos identity] at silent
      exact Dialect.isSilent_quoteIdentifier silent

/-! ## Fields -/

/-- What stays bare of a field with a value: its name where it is not quoted, a comparator that is
given, and the scalars of the value as far as they are bare. -/
def IndicatedField.bareTexts (dialect : Dialect) (positional : Option String) (value : Value)
    (field : IndicatedField) : List String :=
  dialect.bareName field.name ++ (field.options.comparator <|> positional).toList ++
    value.scalars.flatMap (field.options.bareTexts dialect)

/-- The bare texts of a field as the caller wrote it; one that cannot be read is refused. -/
def Field.bareTexts (dialect : Dialect) (call : FieldOptions) (positional : Option String)
    (entry : String × Value) : List String :=
  match IndicatedField.read entry.1 with
  | .ok field => (field.under call).bareTexts dialect positional entry.2
  | .error _ => []

def Row.bareTexts (dialect : Dialect) (call : FieldOptions) (row : Fields Value) : List String :=
  row.entries.flatMap (Field.bareTexts dialect call none)

/-- A comparison whose column and comparator are silent, with a value that is rendered as silent
text. -/
structure Comparison.Silent (c : Comparison) (value : Value) : Prop where
  column : IsSilent c.column
  comparator : IsSilent c.comparator
  scalars : ∀ s ∈ value.scalars, IsSilent (c.options.rendered c.dialect s).sql

theorem IndicatedField.isSilent {field : IndicatedField} {value : Value}
    (silent : ∀ text ∈ field.bareTexts dialect positional value, IsSilent text) :
    Comparison.Silent
      ⟨dialect, field.name, (field.options.comparator <|> positional).getD "=", field.options⟩ value := by
  simp only [IndicatedField.bareTexts, List.mem_append, List.mem_flatMap] at silent
  constructor
  · exact Dialect.isSilent_quoteIdentifier fun text member => silent text (.inl (.inl member))
  · cases given : (field.options.comparator <|> positional) with
    | none => exact (by decide : IsSilent "=")
    | some comparator => exact silent comparator (.inl (.inr (by simp [given])))
  · intro s member
    exact FieldOptions.isSilent_rendered fun text bare => silent text (.inr ⟨s, member, bare⟩)

theorem IndicatedField.read_of_resolve {field : String} {resolved : IndicatedField}
    (known : IndicatedField.resolve field call = .ok resolved) :
    ∃ indicated, IndicatedField.read field = .ok indicated ∧ resolved = indicated.under call := by
  obtain ⟨indicated, found, known⟩ := exists_of_bind_eq_ok known
  obtain ⟨_, -, known⟩ := exists_of_bind_eq_ok known
  cases known
  exact ⟨indicated, found, rfl⟩

theorem Field.isSilent {entry : String × Value} {resolved : IndicatedField}
    (silent : ∀ text ∈ Field.bareTexts dialect call positional entry, IsSilent text)
    (known : IndicatedField.resolve entry.1 call = .ok resolved) :
    Comparison.Silent ⟨dialect, resolved.name, (resolved.options.comparator <|> positional).getD "=",
      resolved.options⟩ entry.2 := by
  obtain ⟨indicated, found, rfl⟩ := IndicatedField.read_of_resolve known
  simp only [Field.bareTexts, found] at silent
  exact IndicatedField.isSilent silent

/-! ## Conditions and assignments -/

theorem Value.mem_scalars {items : List Value} {scalars : List Scalar} {s : Scalar}
    (bound : Value.toScalars items = .ok scalars) (member : s ∈ scalars) :
    s ∈ (Value.list items).scalars := by
  obtain ⟨item, present, scalar⟩ := exists_of_mem_mapM bound member
  cases item with
  | scalar t =>
    cases scalar
    exact List.mem_filterMap.mpr ⟨_, present, rfl⟩
  | list items => cases scalar
  | map fields => cases scalar

namespace Comparison

variable {c : Comparison} {value : Value} {f : Fragment}

theorem Silent.scalar (silent : c.Silent value) {s : Scalar} (member : s ∈ value.scalars) :
    IsSilent (c.scalar s).sql := by
  rw [scalar_eq]
  exact (silent.column.between (by decide) silent.comparator).between (by decide)
    (silent.scalars s member)

theorem Silent.membership (silent : c.Silent value) {items : List Scalar}
    (members : ∀ s ∈ items, s ∈ value.scalars) : IsSilent (c.membership items).sql := by
  have keyword : IsSeparator c.membershipKeyword := by
    unfold membershipKeyword
    split <;> decide
  rw [membership_eq]
  refine (silent.column.between keyword (.intercalate (by decide) fun text member => ?_)).before
    (by decide)
  obtain ⟨f, present, rfl⟩ := List.mem_map.mp member
  obtain ⟨s, given, rfl⟩ := List.mem_map.mp present
  exact silent.scalars s (members s given)

theorem Silent.nullTest (silent : c.Silent value) : IsSilent c.nullTest.sql := by
  refine silent.column.before ?_
  split <;> decide

theorem Silent.test (silent : c.Silent value) (tested : c.test value = .ok f) :
    IsSilent f.sql := by
  simp only [Comparison.test] at tested
  split at tested
  · cases tested
  · obtain ⟨items, bound, tested⟩ := exists_of_bind_eq_ok tested
    cases tested
    exact silent.membership fun s member => Value.mem_scalars bound member
  · cases tested
  · cases tested
    split
    · exact silent.nullTest
    · exact silent.scalar List.mem_cons_self
  · cases tested
    exact silent.scalar List.mem_cons_self

theorem Silent.assignment (silent : c.Silent value) (assigned : c.assignment value = .ok f) :
    IsSilent f.sql := by
  simp only [Comparison.assignment] at assigned
  split at assigned
  · cases assigned
  · cases assigned
  · cases assigned
    split
    · exact silent.scalar List.mem_cons_self
    · exact silent.column.before (by decide)
  · cases assigned
    exact silent.scalar List.mem_cons_self

end Comparison

theorem isSilent_fieldFragment {clause : Clause} {entry : String × Value} {f : Fragment}
    (silent : ∀ text ∈ Field.bareTexts dialect call positional entry, IsSilent text)
    (conformed : fieldFragment dialect clause call entry.1 positional entry.2 = .ok f) :
    IsSilent f.sql := by
  obtain ⟨⟨name, options⟩, known, conformed⟩ := exists_of_bind_eq_ok conformed
  have compared := Field.isSilent silent known
  simp only at conformed
  split at conformed
  · obtain ⟨test, tested, conformed⟩ := exists_of_bind_eq_ok conformed
    cases conformed
    split
    · exact Fragment.isSilent_negate (compared.test tested)
    · exact compared.test tested
  · split at conformed
    · cases conformed
    · exact compared.assignment conformed

theorem isSilent_mappingFragment {clause : Clause} {fields : Fields Value} {f : Fragment}
    (silent : ∀ text ∈ Row.bareTexts dialect call fields, IsSilent text)
    (conformed : mappingFragment dialect clause call fields = .ok f) : IsSilent f.sql := by
  obtain ⟨fragments, each, conformed⟩ := exists_of_bind_eq_ok conformed
  cases conformed
  refine Fragment.isSilent_join (by split <;> decide) fun g member => ?_
  obtain ⟨entry, present, found⟩ := exists_of_mem_mapM each member
  refine isSilent_fieldFragment (fun text bare => silent text ?_) found
  exact List.mem_flatMap.mpr ⟨entry, present, bare⟩

/-! ## Rows -/

theorem isSilent_slot {entry : String × Value} {f : Fragment}
    (silent : ∀ text ∈ Field.bareTexts dialect call none entry, IsSilent text)
    (conformed : slot dialect call entry.1 entry.2 = .ok f) : IsSilent f.sql := by
  obtain ⟨⟨name, options⟩, known, conformed⟩ := exists_of_bind_eq_ok conformed
  have compared := Field.isSilent silent known
  obtain ⟨field, value⟩ := entry
  simp only at conformed
  split at conformed
  · cases conformed
  · cases value with
    | list items => cases conformed
    | map fields => cases conformed
    | scalar s =>
      simp only [slotContent_eq] at conformed
      cases conformed
      unfold slotContent
      split
      · exact by decide
      · exact compared.scalars s List.mem_cons_self

theorem isSilent_rowTuple {row : Fields Value} {f : Fragment}
    (silent : ∀ text ∈ Row.bareTexts dialect call row, IsSilent text)
    (conformed : rowTuple dialect call row = .ok f) : IsSilent f.sql := by
  obtain ⟨slots, each, conformed⟩ := exists_of_bind_eq_ok conformed
  cases conformed
  refine ((IsSilent.intercalate (by decide) fun text member => ?_).behind (by decide)).before (by decide)
  obtain ⟨content, present, rfl⟩ := List.mem_map.mp member
  obtain ⟨entry, given, found⟩ := exists_of_mem_mapM each present
  refine isSilent_slot (fun text bare => silent text ?_) found
  exact List.mem_flatMap.mpr ⟨entry, given, bare⟩

theorem isSilent_rowColumns {row : Fields Value} {columns : List String} {column : String}
    (silent : ∀ text ∈ Row.bareTexts dialect call row, IsSilent text)
    (listed : rowColumns dialect row = .ok columns) (member : column ∈ columns) :
    IsSilent column := by
  obtain ⟨field, present, found⟩ := exists_of_mem_mapM listed member
  obtain ⟨indicated, known, found⟩ := exists_of_bind_eq_ok found
  cases found
  obtain ⟨entry, given, rfl⟩ := List.mem_map.mp present
  refine Dialect.isSilent_quoteIdentifier fun text bare => silent text ?_
  refine List.mem_flatMap.mpr ⟨entry, given, ?_⟩
  rw [Field.bareTexts, known]
  exact List.mem_append_left _ (List.mem_append_left _ bare)

theorem isSilent_rowsFragment {rows : List (Fields Value)} {f : Fragment}
    (silent : ∀ row ∈ rows, ∀ text ∈ Row.bareTexts dialect call row, IsSilent text)
    (conformed : rowsFragment dialect call rows = .ok f) : IsSilent f.sql := by
  unfold rowsFragment at conformed
  split at conformed
  · cases conformed
  · rename_i first rest
    split at conformed
    · cases conformed
    · obtain ⟨columns, listed, conformed⟩ := exists_of_bind_eq_ok conformed
      obtain ⟨tuples, each, conformed⟩ := exists_of_bind_eq_ok conformed
      cases conformed
      have front : IsSilent (", ".intercalate columns) :=
        .intercalate (by decide) fun column => isSilent_rowColumns (silent first List.mem_cons_self) listed
      refine (front.behind (by decide)).between (by decide) (.intercalate (by decide) ?_)
      intro text member
      obtain ⟨tuple, present, rfl⟩ := List.mem_map.mp member
      obtain ⟨row, given, found⟩ := exists_of_mem_mapM each present
      exact isSilent_rowTuple (silent row given) found

end SqlAssembly
