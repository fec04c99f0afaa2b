import SqlAssembly.Proofs.Clause.Columns
import SqlAssembly.Proofs.Fields
import SqlAssembly.Proofs.Query.Blankness
import SqlAssembly.Proofs.Query.Entries

/-! # Mappings as conditions, assignments and rows

A clause goes through a mapping entry by entry.  A mapping has an entry for each name that was ever set,
where the name was set first, with the value that was set last.  So what a clause makes of it has one part
for each of these names, and values that were replaced leave no trace.

* `mappingFragment_eq_ok_iff`, `rowsFragment_eq_ok_iff` — when a mapping is accepted, and what it gives.
* `Input.conform_ofList` — what a mapping gives in which pairs are set one after another.
-/

namespace SqlAssembly

variable {dialect : Dialect} {clause : Clause} {call : FieldOptions} {f : Fragment}

/-! ## Entries in a clause -/

/-- A mapping is accepted if all its fields are, and no field is lost when they are joined. -/
theorem mappingFragment_eq_ok_iff {fields : Fields Value} :
    mappingFragment dialect clause call fields = .ok f ↔
      ∃ parts, List.Forall₂ (fun entry part => fieldFragment dialect clause call entry.1 none entry.2 = .ok part)
          fields.entries parts ∧ f = Fragment.listed clause.combinator.text parts := by
  have joined {parts : List Fragment} (each : List.Forall₂ (fun entry part =>
      fieldFragment dialect clause call entry.1 none entry.2 = .ok part) fields.entries parts) :
      Fragment.join clause.combinator parts = Fragment.listed clause.combinator.text parts := by
    refine Fragment.join_eq_listed fun part member => ?_
    obtain ⟨entry, -, conformed⟩ := exists_of_mem_mapM (mapM_of_forall₂ each) member
    exact Fragment.isEmpty_of_isBlank (isBlank_fieldFragment conformed)
  constructor
  · intro conformed
    obtain ⟨parts, mapped, conformed⟩ := exists_of_bind_eq_ok conformed
    have each := forall₂_of_mapM mapped
    cases conformed
    exact ⟨parts, each, joined each⟩
  · rintro ⟨parts, each, rfl⟩
    rw [← joined each, mappingFragment, mapM_of_forall₂ each]
    rfl

/-- An insert of one row has a column and a slot for each of its fields, if it has any. -/
theorem rowsFragment_eq_ok_iff {row : Fields Value} :
    rowsFragment dialect call [row] = .ok f ↔
      row.entries ≠ [] ∧ ∃ names tuple, rowNames row = .ok names ∧ rowSlots dialect call row = .ok tuple ∧
        f = insertLayout dialect names [tuple] := by
  have given : row.isEmpty = true ↔ row.entries = [] := List.isEmpty_iff
  constructor
  · intro conformed
    have entries : row.entries ≠ [] := by
      intro nothing
      rw [rowsFragment, if_pos (given.mpr nothing)] at conformed
      cases conformed
    obtain ⟨first, names, tuples, head, named, layout, slots⟩ := layout_of_rowsFragment conformed
    cases head
    cases slots with
    | cons filled others =>
      cases others
      exact ⟨entries, names, _, named, filled, layout⟩
  · rintro ⟨entries, names, tuple, named, filled, rfl⟩
    have tuples := rowTuple_eq_ok_iff.mpr ⟨tuple, filled, rfl⟩
    rw [rowsFragment, if_neg (given.not.mpr entries), rowColumns_eq, named, List.mapM_cons, tuples]
    rfl

namespace Input

/-- **A mapping has each name once.**  What is left of pairs that are set one after another has each of
their names once, in the order in which they first occur, with the value that was set last.  A clause of
conditions or assignments accepts it exactly if it accepts each of these names with its value by itself,
and then has one condition or assignment for each, in that order; an insert has one column and one slot for
each. -/
theorem conform_ofList (dialect : Dialect) (call : FieldOptions) (pairs : List (String × Value)) :
    let names := (pairs.map Prod.fst).eraseDups
    let fields := Fields.ofList pairs
    fields.Holds pairs ∧
    (∀ clause f, clause ≠ .insert →
      ((mapping fields).conform dialect clause call = .ok f ↔
        ∃ parts, List.Forall₂ (fun name part => ∃ value, pairs.reverse.lookup name = some value ∧
            (condition name none value).conform dialect clause call = .ok part) names parts ∧
          f = Fragment.listed clause.combinator.text parts)) ∧
    ∀ f, (mapping fields).conform dialect .insert call = .ok f ↔
      pairs ≠ [] ∧ ∃ columns slots,
        List.Forall₂ (fun name column => ∃ indicated, IndicatedField.read name = .ok indicated ∧
          indicated.name = column) names columns ∧
        List.Forall₂ (fun name content => ∃ value, pairs.reverse.lookup name = some value ∧
          slot dialect call name value = .ok content) names slots ∧
        f = insertLayout dialect columns [slots] := by
  intro names fields
  have held := Fields.holds_ofList pairs
  refine ⟨held, fun clause f other => ?_, fun f => ?_⟩
  · simp only [conform, if_neg other, mappingFragment_eq_ok_iff]
    refine exists_congr fun parts => and_congr_left fun _ => ?_
    exact held.forall₂_entries_iff (r := fun name value part =>
      fieldFragment dialect clause call name none value = .ok part)
  · simp only [conform, if_true]
    rw [rowsFragment_eq_ok_iff]
    refine and_congr held.entries_eq_nil_iff.not (exists_congr fun columns => exists_congr fun slots => ?_)
    rw [rowNames_eq_ok_iff, held.keys, rowSlots, mapM_eq_ok_iff]
    refine and_congr_right fun _ => and_congr_left fun _ => ?_
    exact held.forall₂_entries_iff (r := fun name value content => slot dialect call name value = .ok content)

/-- Two names that are set twice, the first time to what a condition cannot hold. -/
theorem conform_ofList_repeated :
    let pairs : List (String × Value) :=
      [("b", .scalar (.int 1)), ("!a", .list []), ("b", .null), ("!a", .scalar (.text "x"))]
    let test : Fragment := ⟨"\"b\" IS NULL\n\tAND NOT ( \"a\" = ? )", [.text "x"]⟩
    (Fields.ofList pairs).keys = ["b", "!a"] ∧ (Fields.ofList pairs).get? "b" = some .null ∧
      (mapping (.ofList pairs)).conform .generic .filter {} = .ok test := by
  intro pairs test
  obtain ⟨held, conditions, -⟩ := conform_ofList .generic {} pairs
  refine ⟨held.keys, held.get? "b", (conditions .filter test (by decide)).mpr ?_⟩
  let first : Fragment := .raw "\"b\" IS NULL"
  let second : Fragment := ⟨"NOT ( \"a\" = ? )", [.text "x"]⟩
  exact ⟨[first, second], .cons ⟨.null, rfl, rfl⟩ (.cons ⟨.scalar (.text "x"), rfl, rfl⟩ .nil), rfl⟩

end Input

end SqlAssembly
