import Mathlib.Data.List.Nodup
import SqlAssembly.Proofs.Success
import SqlAssembly.Query.Assembly

/-! # Columns and slots of an insert

The columns of an insert are the names of its first row, while every tuple follows its own
row.  The two orders are not compared: rows that share their names put each value under
its own column as long as they list them in the same order.

* `rowNames` — the names of a row, in its order.
* `Renders`, `Fills` — slots with the values of a row under names.
* `insertLayout` — the text of columns and tuples.
* `Input.conform_rows_fills` — which columns the slots of an insert stand under.
-/

namespace SqlAssembly

variable {dialect : Dialect} {call : FieldOptions}

/-! ## Names -/

/-- The names of a row's fields, without their indicators, in the order of the row. -/
def rowNames (row : Fields Value) : Except AssemblyError (List String) :=
  row.keys.mapM fun field => do return (← IndicatedField.read field).name

/-- Rows that have the same names, none of them twice. -/
def ShareNames (rows : List (Fields Value)) : Prop :=
  ∃ names : List String, names.Nodup ∧ ∀ row ∈ rows, ∃ own, rowNames row = .ok own ∧ own.Perm names

theorem rowColumns_eq (dialect : Dialect) (row : Fields Value) :
    rowColumns dialect row = do return (← rowNames row).map dialect.quoteIdentifier := by
  unfold rowColumns rowNames
  generalize row.keys = fields
  induction fields with
  | nil => rfl
  | cons field fields inductionHypothesis =>
    rw [List.mapM_cons, List.mapM_cons, inductionHypothesis]
    cases IndicatedField.read field with
    | error e => rfl
    | ok indicated =>
      generalize fields.mapM (fun field => do return (← IndicatedField.read field).name) = names
      cases names <;> rfl

theorem rowNames_eq_ok_iff {row : Fields Value} {own : List String} :
    rowNames row = .ok own ↔
      List.Forall₂ (fun field name => ∃ indicated, IndicatedField.read field = .ok indicated ∧
        indicated.name = name) row.keys own := by
  rw [rowNames, mapM_eq_ok_iff]
  simp only [bind_eq_ok_iff, pure, Except.pure, Except.ok.injEq]

theorem forall₂_rowNames {row : Fields Value} {own : List String} (named : rowNames row = .ok own) :
    List.Forall₂ (fun entry name => ∃ indicated, IndicatedField.read entry.1 = .ok indicated ∧
      indicated.name = name) row.entries own := by
  rwa [rowNames_eq_ok_iff, Fields.keys, List.forall₂_map_left_iff] at named

/-! ## Slots -/

/-- A slot renders the value that a row has under a name. -/
def Renders (dialect : Dialect) (call : FieldOptions) (row : Fields Value) (name : String)
    (content : Fragment) : Prop :=
  ∃ entry ∈ row.entries,
    (∃ indicated, IndicatedField.read entry.1 = .ok indicated ∧ indicated.name = name) ∧
      slot dialect call entry.1 entry.2 = .ok content

/-- The slots of a tuple render the values that a row has under names, one after another. -/
abbrev Fills (dialect : Dialect) (call : FieldOptions) (row : Fields Value) (names : List String)
    (tuple : List Fragment) : Prop := List.Forall₂ (Renders dialect call row) names tuple

def rowSlots (dialect : Dialect) (call : FieldOptions) (row : Fields Value) :
    Except AssemblyError (List Fragment) :=
  row.entries.mapM fun entry => slot dialect call entry.1 entry.2

variable {row : Fields Value} {own names : List String} {tuple : List Fragment}

theorem fills_own (named : rowNames row = .ok own) (slots : rowSlots dialect call row = .ok tuple) :
    Fills dialect call row own tuple :=
  forall₂_beside (forall₂_rowNames named) (forall₂_of_mapM slots)

/-- Slots that differ stand under no names but those of their own row, in its order. -/
theorem eq_of_fills (named : rowNames row = .ok own) (slots : rowSlots dialect call row = .ok tuple)
    (distinct : tuple.Nodup) (fills : Fills dialect call row names tuple) : own = names := by
  obtain ⟨namesLength, ownNames⟩ := List.forall₂_iff_get.mp (forall₂_rowNames named)
  obtain ⟨slotsLength, ownSlots⟩ := List.forall₂_iff_get.mp (forall₂_of_mapM slots)
  obtain ⟨sameLength, rendered⟩ := List.forall₂_iff_get.mp fills
  refine List.ext_get (by omega) fun i inOwn inNames => ?_
  obtain ⟨entry, member, ⟨indicated, known, name⟩, content⟩ := rendered i inNames (by omega)
  obtain ⟨j, rfl⟩ := List.get_of_mem member
  -- the entry that this slot renders is the one that it was made of
  have sameSlot : tuple.get ⟨j, by omega⟩ = tuple.get ⟨i, by omega⟩ := by
    have made := ownSlots j j.isLt (by omega)
    rw [content] at made
    exact (Except.ok.inj made).symm
  have samePlace : j.val = i := by simpa using distinct.get_inj_iff.mp sameSlot
  subst samePlace
  obtain ⟨ownIndicated, ownKnown, ownName⟩ := ownNames j j.isLt inOwn
  rw [known] at ownKnown
  cases ownKnown
  exact ownName.symm.trans name

/-! ## Inserts -/

def tupleFragment (tuple : List Fragment) : Fragment :=
  ⟨"(" ++ ", ".intercalate (tuple.map Fragment.sql) ++ ")", tuple.flatMap Fragment.params⟩

/-- Columns and tuples as they stand in an insert. -/
def insertLayout (dialect : Dialect) (names : List String) (tuples : List (List Fragment)) :
    Fragment :=
  ⟨"(" ++ ", ".intercalate (names.map dialect.quoteIdentifier) ++ ")\nVALUES "
      ++ ", ".intercalate (tuples.map fun tuple => (tupleFragment tuple).sql),
    tuples.flatMap fun tuple => (tupleFragment tuple).params⟩

theorem rowTuple_eq_ok_iff {f : Fragment} :
    rowTuple dialect call row = .ok f ↔
      ∃ tuple, rowSlots dialect call row = .ok tuple ∧ f = tupleFragment tuple := by
  have made : rowTuple dialect call row = do return tupleFragment (← rowSlots dialect call row) := rfl
  rw [made, bind_eq_ok_iff]
  simp only [pure, Except.pure, Except.ok.injEq, eq_comm]

/-- An insert has the names of its first row as columns, and a tuple for each row. -/
theorem layout_of_rowsFragment {rows : List (Fields Value)} {f : Fragment}
    (conformed : rowsFragment dialect call rows = .ok f) :
    ∃ first names tuples, rows.head? = some first ∧ rowNames first = .ok names ∧
      f = insertLayout dialect names tuples ∧
      List.Forall₂ (fun row tuple => rowSlots dialect call row = .ok tuple) rows tuples := by
  unfold rowsFragment at conformed
  split at conformed
  · cases conformed
  · rename_i first rest
    split at conformed
    · cases conformed
    · obtain ⟨columns, listed, conformed⟩ := exists_of_bind_eq_ok conformed
      obtain ⟨fragments, tuples, conformed⟩ := exists_of_bind_eq_ok conformed
      rw [rowColumns_eq] at listed
      obtain ⟨names, named, listed⟩ := exists_of_bind_eq_ok listed
      obtain ⟨slots, related, rfl⟩ := exists_of_forall₂_map
        ((forall₂_of_mapM tuples).imp fun row g => rowTuple_eq_ok_iff.mp)
      refine ⟨first, names, slots, rfl, named, ?_, related⟩
      cases listed
      cases conformed
      simp only [insertLayout, List.map_map, List.flatMap_map]
      rfl

/-- **A tuple follows its own row.**  An insert of rows that share their names has those of the
first row as columns, and in each tuple the values of the row in the order of the row.  Where the
slots of a tuple differ, they stand under their own columns exactly when the row lists its names in
the order of the first one. -/
theorem Input.conform_rows_fills {rows : List (Fields Value)} {f : Fragment}
    (conformed : (Input.rows rows).conform dialect .insert call = .ok f) (shared : ShareNames rows) :
    ∃ first names tuples, rows.head? = some first ∧ rowNames first = .ok names ∧
      f = insertLayout dialect names tuples ∧
      List.Forall₂ (fun row tuple => ∃ own, rowNames row = .ok own ∧ own.Perm names ∧
        Fills dialect call row own tuple ∧
        (tuple.Nodup → (Fills dialect call row names tuple ↔ own = names))) rows tuples := by
  have given : rowsFragment dialect call rows = .ok f := by
    simpa only [Input.conform, if_true] using conformed
  obtain ⟨first, names, tuples, head, named, layout, slots⟩ := layout_of_rowsFragment given
  refine ⟨first, names, tuples, head, named, layout, ?_⟩
  obtain ⟨all, -, each⟩ := shared
  have columns : names.Perm all := by
    obtain ⟨own, ownNamed, perm⟩ := each first (List.mem_of_mem_head? head)
    rw [named] at ownNamed
    cases ownNamed
    exact perm
  refine forall₂_of_forall_mem slots fun row tuple member filled => ?_
  obtain ⟨own, ownNamed, perm⟩ := each row member
  have follows := fills_own ownNamed filled
  refine ⟨own, ownNamed, perm.trans columns.symm, follows, fun distinct => ⟨?_, ?_⟩⟩
  · exact eq_of_fills ownNamed filled distinct
  · rintro rfl
    exact follows

/-- Rows in one order: indicators do not count as part of a name, and a slot without a parameter takes
its place like any other. -/
theorem Input.conform_rows_fills_sqlite :
    let rows : List (Fields Value) :=
      [⟨[("a", .scalar (.int 1)), ("b", .scalar .null)]⟩,
        ⟨[("a", .scalar (.int 2)), ("\"b", .scalar (.text "NOW()"))]⟩]
    (Input.rows rows).conform .sqlite .insert {} =
        .ok ⟨"(\"a\", \"b\")\nVALUES (?, NULL), (?, NOW())", [.int 1, .int 2]⟩ ∧
      ∃ tuples, insertLayout .sqlite ["a", "b"] tuples =
          ⟨"(\"a\", \"b\")\nVALUES (?, NULL), (?, NOW())", [.int 1, .int 2]⟩ ∧
        List.Forall₂ (fun row tuple => Fills .sqlite {} row ["a", "b"] tuple) rows tuples := by
  intro rows
  have conformed : (Input.rows rows).conform .sqlite .insert {} =
      .ok ⟨"(\"a\", \"b\")\nVALUES (?, NULL), (?, NOW())", [.int 1, .int 2]⟩ := rfl
  have sameNames : ∀ row ∈ rows, rowNames row = .ok ["a", "b"] := by
    simp only [rows, List.forall_mem_cons, List.not_mem_nil, false_implies, implies_true, and_true]
    exact ⟨rfl, rfl⟩
  have shared : ShareNames rows :=
    ⟨["a", "b"], by decide, fun row member => ⟨_, sameNames row member, .refl _⟩⟩
  obtain ⟨first, names, tuples, head, named, layout, fills⟩ := Input.conform_rows_fills conformed shared
  obtain rfl : names = ["a", "b"] :=
    Except.ok.inj (named.symm.trans (sameNames first (List.mem_of_mem_head? head)))
  refine ⟨conformed, tuples, layout.symm, forall₂_of_forall_mem fills ?_⟩
  rintro row tuple member ⟨own, ownNamed, -, follows, -⟩
  obtain rfl : own = ["a", "b"] := Except.ok.inj (ownNamed.symm.trans (sameNames row member))
  exact follows

/-- Rows in different orders: the value of `b` in the second row stands under `a`. -/
theorem Input.conform_rows_misplaced :
    let first : Fields Value := ⟨[("a", .scalar (.int 1)), ("b", .scalar (.int 2))]⟩
    let second : Fields Value := ⟨[("b", .scalar (.int 4)), ("a", .scalar (.int 3))]⟩
    ShareNames [first, second] ∧
      (Input.rows [first, second]).conform .generic .insert {} =
        .ok ⟨"(\"a\", \"b\")\nVALUES (?, ?), (?, ?)", [.int 1, .int 2, .int 4, .int 3]⟩ ∧
      rowSlots .generic {} second = .ok [⟨"?", [.int 4]⟩, ⟨"?", [.int 3]⟩] ∧
      ¬Fills .generic {} second ["a", "b"] [⟨"?", [.int 4]⟩, ⟨"?", [.int 3]⟩] := by
  intro first second
  have shared : ShareNames [first, second] := by
    refine ⟨["a", "b"], by decide, ?_⟩
    rw [List.forall_mem_cons, List.forall_mem_singleton]
    exact ⟨⟨["a", "b"], rfl, .refl _⟩, ⟨["b", "a"], rfl, .swap _ _ _⟩⟩
  have slots : rowSlots .generic {} second = .ok [⟨"?", [.int 4]⟩, ⟨"?", [.int 3]⟩] := rfl
  refine ⟨shared, rfl, slots, fun fills => ?_⟩
  have named : rowNames second = .ok ["b", "a"] := rfl
  have order := eq_of_fills named slots (by decide) fills
  simp at order

end SqlAssembly
