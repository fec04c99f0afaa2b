import SqlAssembly.Proofs.Fields
import SqlAssembly.Proofs.Success
import SqlAssembly.Session.Reading
import SqlAssembly.Session.Script

/-! # Rows under a key

Rows are put under the text of a key column in two ways: whole, or as the value of one column.  Both
ways go through the rows in order, and a later row takes the place of an earlier one with its key.
Since the value is taken out of its row before the key is read, the two agree exactly where the key
is another column than the value.

* `ResultSet.IsFilled` — every row has a value for every column.
* `ResultSet.byKey_eq`, `ResultSet.columnByKey_eq` — what the two ways give.
* `Session.keyToColumn_eq` — how the readings of a session compare.
-/

namespace SqlAssembly

/-! ## Rows with a value for every column -/

/-- The value of a row under a column name, NULL where it has none. -/
def Row.valueOf (row : Row) (column : String) : Scalar := (row.get? column).getD .null

namespace ResultSet

variable {result : ResultSet} {row : Row} {key column : String}

/-- Every row has as many values as there are columns. -/
def IsFilled (result : ResultSet) : Prop :=
  ∀ values ∈ result.rows, values.length = result.columns.length

theorem exists_columnIndex (present : column ∈ result.columns) :
    ∃ index, result.columnIndex? column = some index ∧ index < result.columns.length := by
  obtain ⟨index, found⟩ := Option.isSome_iff_exists.mp (List.isSome_idxOf?.mpr present)
  obtain ⟨within, -⟩ := List.idxOf?_eq_some_iff.mp found
  exact ⟨index, found, within⟩

theorem IsFilled.get? (filled : result.IsFilled) (present : column ∈ result.columns)
    (member : row ∈ result.fetchAll.1) : row.get? column = some (row.valueOf column) := by
  obtain ⟨values, valuesMember, rfl⟩ := List.mem_map.mp member
  obtain ⟨index, found, within⟩ := exists_columnIndex present
  have position : result.columns.idxOf? column = some index := found
  have inValues : index < values.length := filled values valuesMember ▸ within
  simp only [Row.valueOf, Row.get?, position, Row.getIndex?, Option.bind_some,
    List.getElem?_eq_getElem inValues, Option.getD_some]

/-- The value has been taken out of its row when the key is read. -/
def keyText (key column : String) (row : Row) : String :=
  if key = column then Scalar.plain .null else (row.valueOf key).plain

theorem keyedValue_eq (filled : result.IsFilled) (keyed : key ∈ result.columns)
    (present : column ∈ result.columns) {keyIndex valueIndex : Nat}
    (keyFound : result.columnIndex? key = some keyIndex)
    (valueFound : result.columnIndex? column = some valueIndex) (member : row ∈ result.fetchAll.1) :
    keyedValue keyIndex valueIndex row.values = .ok (keyText key column row, row.valueOf column) := by
  have keyRead := filled.get? keyed member
  have valueRead := filled.get? present member
  obtain ⟨values, valuesMember, rfl⟩ := List.mem_map.mp member
  have keyPosition : result.columns.idxOf? key = some keyIndex := keyFound
  have valuePosition : result.columns.idxOf? column = some valueIndex := valueFound
  simp only [Row.get?, Row.getIndex?, keyPosition, valuePosition, Option.bind_some]
    at keyRead valueRead
  by_cases same : key = column
  · subst same
    obtain rfl : keyIndex = valueIndex := Option.some.inj (keyFound.symm.trans valueFound)
    have within : keyIndex < values.length := (List.getElem?_eq_some_iff.mp valueRead).1
    rw [keyedValue, valueRead, List.getElem?_set_self within, keyText, if_pos rfl]
  · have apart : valueIndex ≠ keyIndex := by
      intro positions
      obtain ⟨_, keyNamed, -⟩ := List.idxOf?_eq_some_iff.mp keyPosition
      obtain ⟨_, valueNamed, -⟩ := List.idxOf?_eq_some_iff.mp valuePosition
      subst positions
      exact same (keyNamed.symm.trans valueNamed)
    rw [keyedValue, valueRead, List.getElem?_set_ne apart, keyRead, keyText, if_neg same]

/-! ## The two ways -/

theorem byKey_eq (filled : result.IsFilled) (keyed : key ∈ result.columns) :
    result.byKey key =
      .ok (.ofList (result.fetchAll.1.map fun row => ((row.valueOf key).plain, row))) := by
  refine congrArg (· >>= fun pairs => .ok (Fields.ofList pairs)) (mapM_of_forall_mem ?_)
  intro row member
  rw [filled.get? keyed member]

theorem columnByKey_eq (filled : result.IsFilled) (keyed : key ∈ result.columns)
    (present : column ∈ result.columns) :
    result.columnByKey key column =
      .ok (.ofList (result.fetchAll.1.map fun row => (keyText key column row, row.valueOf column))) := by
  rw [columnByKey]
  split
  case isTrue none =>
    have noRows : result.rows = [] := List.length_eq_zero_iff.mp none
    simp only [fetchAll, fetchAllValues, noRows, List.map_nil]
    rfl
  case isFalse =>
    obtain ⟨keyIndex, keyFound, -⟩ := exists_columnIndex keyed
    obtain ⟨valueIndex, valueFound, -⟩ := exists_columnIndex present
    simp only [requireColumn, keyFound, valueFound, fetchAll, List.map_map]
    refine congrArg (· >>= fun pairs => .ok (Fields.ofList pairs)) (mapM_of_forall_mem ?_)
    intro values member
    exact keyedValue_eq filled keyed present keyFound valueFound (List.mem_map_of_mem member)

end ResultSet

/-! ## Readings of a session -/

/-- **Rows by their key.**  Of a result that has a value for every column in every row, the values of
a column are put under the text of the key, row after row.  They are then the values that the records
under the same keys have in that column.  A column that is its own key has lost its text by then, and
only the value of the last row is left. -/
theorem Session.keyToColumn_eq {State : Type} {s s' : Session State} {q : Query} {result : ResultSet}
    {key column : String} (answered : s.query q = (.ok result, s')) (filled : result.IsFilled)
    (keyed : key ∈ result.columns) (present : column ∈ result.columns) :
    s.keyToColumn q key column = (.ok (.ofList (result.fetchAll.1.map fun row =>
        (if key = column then "NULL" else (row.valueOf key).plain, row.valueOf column))), s') ∧
      (key = column → s.keyToColumn q key column =
        (.ok ⟨result.fetchAll.1.getLast?.toList.map fun row => ("NULL", row.valueOf column)⟩, s')) ∧
      (key ≠ column → ∃ records values,
        s.keyToRecord q key = (.ok records, s') ∧ s.keyToColumn q key column = (.ok values, s') ∧
          values.keys = records.keys ∧
          ∀ text, values.get? text = (records.get? text).bind (·.get? column)) := by
  have whole : s.keyToColumn q key column = (.ok (.ofList (result.fetchAll.1.map fun row =>
      (ResultSet.keyText key column row, row.valueOf column))), s') := by
    rw [keyToColumn, answered, ← ResultSet.columnByKey_eq filled keyed present]
    rfl
  refine ⟨whole, ?_, ?_⟩
  · rintro rfl
    have named := Fields.ofList_of_name "NULL" (result.fetchAll.1.map (·.valueOf key))
    rw [List.map_map, List.getLast?_map, Option.toList_map, List.map_map] at named
    rw [whole]
    simp only [ResultSet.keyText]
    exact congrArg (fun values => (Except.ok values, s')) named
  · intro apart
    let pairs := result.fetchAll.1.map fun row => ((row.valueOf key).plain, row)
    have records : s.keyToRecord q key = (.ok (.ofList pairs), s') := by
      rw [keyToRecord, answered, ← ResultSet.byKey_eq filled keyed]
      rfl
    refine ⟨.ofList pairs, (Fields.ofList pairs).map (·.valueOf column), records, ?_, Fields.keys_map _ _, ?_⟩
    · rw [whole, ← Fields.ofList_map, List.map_map]
      simp only [ResultSet.keyText, if_neg apart]
      rfl
    · intro text
      rw [Fields.get?_map]
      cases found : (Fields.ofList pairs).get? text with
      | none => rfl
      | some record =>
        obtain ⟨row, member, same⟩ := List.mem_map.mp (Fields.mem_ofList (Fields.mem_of_get? found))
        obtain rfl : row = record := congrArg Prod.snd same
        exact (filled.get? present member).symm

/-- The records are keyed by their first column, and the value is that of their second one; of two
rows with one key the later stays. -/
theorem Session.keyToColumn_eq_names :
    let result : ResultSet := .ofRows ["id", "name"]
      [[.int 1, .text "ada"], [.int 2, .text "grace"], [.text "1", .null]]
    let s : Session Script :=
      ⟨Script.backend "sqlite", { responses := [.ok result] }, .sqlite, .empty 8 16, none⟩
    let q : Query := .mk .sqlite [.setTable "users"]
    (s.keyToColumn q "id" "name").1 = .ok ⟨[("1", .null), ("2", .text "grace")]⟩ ∧
      ∃ records, (s.keyToRecord q "id").1 = .ok records ∧ records.keys = ["1", "2"] := by
  intro result s q
  have answered : s.query q = (.ok result, (s.query q).2) :=
    Prod.ext (by decide +kernel) rfl
  have filled : result.IsFilled := by
    unfold ResultSet.IsFilled
    decide
  have keyed : "id" ∈ result.columns := by decide
  have present : "name" ∈ result.columns := by decide
  obtain ⟨whole, -, agree⟩ := Session.keyToColumn_eq answered filled keyed present
  obtain ⟨records, values, fetched, mapped, keys, -⟩ := agree (by decide)
  rw [mapped] at whole ⊢
  obtain rfl := Except.ok.inj (congrArg Prod.fst whole)
  exact ⟨by decide +kernel, records, congrArg Prod.fst fetched, keys.symm.trans (by decide +kernel)⟩

/-- Of two rows by their own key the first is lost, and the key of the second is that of no row. -/
theorem Session.keyToColumn_loses_keys :
    let result : ResultSet := .ofRows ["id"] [[.int 1], [.int 2]]
    let s : Session Script :=
      ⟨Script.backend "sqlite", { responses := [.ok result] }, .sqlite, .empty 8 16, none⟩
    let q : Query := .mk .sqlite [.setTable "t"]
    (s.query q).1 = .ok result ∧ result.IsFilled ∧ "id" ∈ result.columns ∧
      (s.keyToColumn q "id" "id").1 = .ok ⟨[("NULL", .int 2)]⟩ ∧
      (s.keyToColumn q "id" "id").1 ≠ .ok (.ofList (result.fetchAll.1.map fun row =>
        ((row.valueOf "id").plain, row.valueOf "id"))) ∧
      ∃ records, (s.keyToRecord q "id").1 = .ok records ∧ records.keys = ["1", "2"] := by
  intro result s q
  refine ⟨by decide +kernel, by unfold ResultSet.IsFilled; decide, by decide, by decide +kernel,
    by decide +kernel, .ofList [("1", ⟨["id"], [.int 1]⟩), ("2", ⟨["id"], [.int 2]⟩)], ?_, ?_⟩
  · decide +kernel
  · decide +kernel

end SqlAssembly
