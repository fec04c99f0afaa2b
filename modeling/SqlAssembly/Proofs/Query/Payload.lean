import SqlAssembly.Proofs.Clause.Columns
import SqlAssembly.Proofs.Query.Negation

/-! # Payloads

A payload sets fields, so a negation and a comparator have no meaning in it.  A negation is refused
wherever it reaches a field.  A comparator is not: only an insert refuses one, and only if it is given
by position.  From anywhere else an insert passes over it, and an assignment has it where `=` belongs.
The text of a payload is taken as it is, with a negation around it if its options ask for one.

* `Comparison.assigned`, `Comparison.slotted` — what is written of a field that is set.
* `Entry.Sets` — a field that is set.
* `Input.fieldRows` — the fields of an input, row by row.
* `Input.conform_payload` — what is refused in a payload, and what becomes of the rest.
-/

namespace SqlAssembly

variable {dialect : Dialect} {clause : Clause} {f : Fragment}

/-! ## Fields -/

namespace Comparison

/-- What stands between a column and the scalar that it is set to.  Null is always set with `=`, unless
it is SQL text. -/
def operator (c : Comparison) (s : Scalar) : String :=
  if !c.options.raw && s.isNull then "=" else c.comparator

def slotted (c : Comparison) (s : Scalar) : Fragment := slotContent c.dialect c.options s

def assigned (c : Comparison) (s : Scalar) : Fragment :=
  (c.slotted s).prefixed (c.column ++ " " ++ c.operator s ++ " ")

theorem assignment_scalar_eq (c : Comparison) (s : Scalar) : c.assignment (.scalar s) = .ok (c.assigned s) := by
  by_cases null : s = .null
  · subst null
    by_cases raw : c.options.raw = true
    · have set : c.assignment (.scalar .null) = .ok (c.scalar .null) := by simp [assignment, raw]
      simp [set, scalar_eq, assigned, slotted, slotContent, operator, raw]
    · have set : c.assignment (.scalar .null) = .ok (.raw (c.column ++ " = NULL")) := by
        simp [assignment, raw]
      simp [set, assigned, slotted, slotContent, operator, raw, Scalar.isNull, Fragment.prefixed,
        Fragment.raw, String.append_assoc]
  · have visible : s.isNull = false := by
      cases s with
      | null => exact absurd rfl null
      | bool | int | float | text | blob => rfl
    rw [c.assignment_scalar visible, scalar_eq]
    simp [assigned, slotted, slotContent, operator, visible]

theorem exists_of_assignment {c : Comparison} {value : Value} (set : c.assignment value = .ok f) :
    ∃ s, value = .scalar s ∧ f = c.assigned s := by
  cases value with
  | list items => cases set
  | map fields => cases set
  | scalar s =>
    rw [c.assignment_scalar_eq] at set
    cases set
    exact ⟨s, rfl, rfl⟩

end Comparison

namespace Entry

/-- A field that is set to a scalar: it reads as one that is not negated, and `written` of the
comparison that it stands for. -/
structure Sets (dialect : Dialect) (written : Comparison → Scalar → Fragment) (entry : Entry)
    (f : Fragment) : Prop where
  affirmed : entry.isNegated = false
  set : ∃ indicated s, IndicatedField.read entry.field = .ok indicated ∧ entry.value = .scalar s ∧
    f = written (entry.comparison dialect indicated) s

variable {entry : Entry}

theorem isNegated_eq_false {indicated : IndicatedField}
    (read : IndicatedField.read entry.field = .ok indicated)
    (affirmed : ¬(entry.comparison dialect indicated).options.negated = true) : entry.isNegated = false := by
  rw [isNegated_of_read read dialect]
  exact Bool.not_eq_true _ ▸ affirmed

theorem sets_of_fragment (payload : clause.holdsConditions = false)
    (conformed : entry.fragment dialect clause = .ok f) :
    entry.Sets dialect Comparison.assigned f := by
  obtain ⟨indicated, read, -, affirmed, conformed⟩ := assignment_of_fragment payload conformed
  obtain ⟨s, value, rfl⟩ := Comparison.exists_of_assignment conformed
  exact ⟨isNegated_eq_false read affirmed, indicated, s, read, value, rfl⟩

def HasSlot (dialect : Dialect) (entry : Entry) (f : Fragment) : Prop :=
  slot dialect entry.options entry.field entry.value = .ok f

theorem exists_of_hasSlot (filled : entry.HasSlot dialect f) :
    ∃ indicated s, IndicatedField.read entry.field = .ok indicated ∧
      ¬((entry.comparison dialect indicated).options.raw = true ∧
        (entry.comparison dialect indicated).options.identity = true) ∧
      ¬(entry.comparison dialect indicated).options.negated = true ∧
      entry.value = .scalar s ∧ f = (entry.comparison dialect indicated).slotted s := by
  obtain ⟨resolved, known, filled⟩ := exists_of_bind_eq_ok filled
  obtain ⟨indicated, read, rfl, consistent⟩ := read_of_resolve dialect known
  simp only at filled
  split at filled
  · cases filled
  · rename_i affirmed
    cases given : entry.value with
    | list items => simp [given] at filled
    | map fields => simp [given] at filled
    | scalar s =>
      simp only [given, slotContent_eq] at filled
      cases filled
      exact ⟨indicated, s, read, consistent, affirmed, rfl, rfl⟩

theorem sets_of_hasSlot (filled : entry.HasSlot dialect f) : entry.Sets dialect Comparison.slotted f := by
  obtain ⟨indicated, s, read, -, affirmed, value, rfl⟩ := exists_of_hasSlot filled
  exact ⟨isNegated_eq_false read affirmed, indicated, s, read, value, rfl⟩

end Entry

/-! ## Rows of fields -/

def rowEntries (call : FieldOptions) (row : Fields Value) : List Entry :=
  row.entries.map fun (field, value) => ⟨field, none, value, call⟩

theorem positional_of_rowEntries (call : FieldOptions) (row : Fields Value) :
    ∀ entry ∈ rowEntries call row, ∀ c, entry.positional = some c → c = "=" := by
  rw [rowEntries, List.forall_mem_map]
  exact fun _ _ => nofun

/-- The slots of an insert, each with the field that it is made of. -/
abbrev SlotsOf (dialect : Dialect) (rows : List (List Entry)) (tuples : List (List Fragment)) : Prop :=
  List.Forall₂ (List.Forall₂ (Entry.Sets dialect Comparison.slotted)) rows tuples

theorem hasSlots_of_rowsFragment {call : FieldOptions} {rows : List (Fields Value)}
    (conformed : rowsFragment dialect call rows = .ok f) :
    ∃ names tuples, f = insertLayout dialect names tuples ∧
      List.Forall₂ (List.Forall₂ (Entry.HasSlot dialect)) (rows.map (rowEntries call)) tuples := by
  obtain ⟨first, names, tuples, -, -, layout, each⟩ := layout_of_rowsFragment conformed
  refine ⟨names, tuples, layout, ?_⟩
  rw [List.forall₂_map_left_iff]
  refine each.imp fun row tuple slots => ?_
  rw [rowEntries, List.forall₂_map_left_iff]
  exact forall₂_of_mapM slots

namespace Input

/-- The fields of an input, row by row, under the options of a call and of the overrides around them. -/
def fieldRows : Input → FieldOptions → List (List Entry)
  | .overridden input options, call => input.fieldRows (call.merge options)
  | .mapping fields, call => [rowEntries call fields]
  | .rows given, call => given.map (rowEntries call)
  | .condition field positional value, call => [[⟨field, positional, value, call⟩]]
  | .id n, call => [[⟨"id", none, .scalar (.int n), call⟩]]
  | .literal _, _ | .fragment _, _ | .subquery _, _ => []

/-- Whether an input is text, with overrides or without. -/
def isText : Input → Bool
  | .overridden input _ => input.isText
  | .literal _ | .fragment _ | .subquery _ => true
  | .mapping _ | .rows _ | .condition .. | .id _ => false

theorem entries_of_conform (other : clause ≠ .insert) :
    ∀ (input : Input) (call : FieldOptions), input.isText = false →
      input.conform dialect clause call = .ok f → input.entries? call = some (input.fieldRows call).flatten
  | .overridden input options, call, noText, conformed => by
    simp only [conform] at conformed
    exact entries_of_conform other input (call.merge options) noText conformed
  | .mapping fields, call, _, _ => by
    rw [fieldRows, List.flatten_singleton]
    rfl
  | .rows given, call, _, conformed => by
    simp only [conform, if_neg other] at conformed
    cases conformed
  | .condition field positional value, call, _, _ => rfl
  | .id n, call, _, _ => rfl
  | .literal _, _, noText, _ | .fragment _, _, noText, _ | .subquery _, _, noText, _ => by cases noText

theorem assignments_of_conform (input : Input) (call : FieldOptions) (noText : input.isText = false)
    (conformed : input.conform dialect .update call = .ok f) :
    ∃ assignments, f = Fragment.join .comma assignments ∧
      List.Forall₂ (Entry.Sets dialect Comparison.assigned) (input.fieldRows call).flatten assignments := by
  have held := entries_of_conform (by decide) input call noText conformed
  obtain ⟨assignments, each, joined⟩ := fragments_of_conform (by decide) input call held conformed
  exact ⟨assignments, joined, each.imp fun _ _ => Entry.sets_of_fragment rfl⟩

theorem hasSlots_of_conform :
    ∀ (input : Input) (call : FieldOptions), input.isText = false →
      input.conform dialect .insert call = .ok f →
        ∃ names tuples, f = insertLayout dialect names tuples ∧
          List.Forall₂ (List.Forall₂ (Entry.HasSlot dialect)) (input.fieldRows call) tuples ∧
          ∀ row ∈ input.fieldRows call, ∀ entry ∈ row, ∀ c, entry.positional = some c → c = "="
  | .overridden input options, call, noText, conformed => by
    simp only [conform] at conformed
    exact hasSlots_of_conform input (call.merge options) noText conformed
  | .mapping fields, call, _, conformed => by
    simp only [conform, if_true] at conformed
    obtain ⟨names, tuples, layout, slots⟩ := hasSlots_of_rowsFragment conformed
    refine ⟨names, tuples, layout, slots, ?_⟩
    rw [fieldRows, List.forall_mem_singleton]
    exact positional_of_rowEntries call fields
  | .rows given, call, _, conformed => by
    simp only [conform, if_true] at conformed
    obtain ⟨names, tuples, layout, slots⟩ := hasSlots_of_rowsFragment conformed
    refine ⟨names, tuples, layout, slots, ?_⟩
    rw [fieldRows, List.forall_mem_map]
    exact fun row _ => positional_of_rowEntries call row
  | .condition field positional value, call, _, conformed => by
    obtain ⟨neutral, conformed⟩ : (∀ c, positional = some c → c = "=") ∧
        rowsFragment dialect call [Fields.empty.set field value] = .ok f := by
      simp only [conform, if_true, insertField] at conformed
      split at conformed
      · exact ⟨by simp, conformed⟩
      · exact ⟨by simp, conformed⟩
      · cases conformed
    obtain ⟨names, tuples, layout, slots⟩ := hasSlots_of_rowsFragment conformed
    refine ⟨names, tuples, layout, ?_, ?_⟩
    · -- a slot is the same whatever the comparator is
      cases slots with
      | cons slots others =>
        cases others
        cases slots with
        | cons first none =>
          cases none
          exact .cons (.cons first .nil) .nil
    · simpa [fieldRows] using neutral
  | .id n, call, _, conformed => by
    simp only [conform] at conformed
    cases conformed
  | .literal _, _, noText, _ | .fragment _, _, noText, _ | .subquery _, _, noText, _ => by cases noText

theorem slots_of_conform (input : Input) (call : FieldOptions) (noText : input.isText = false)
    (conformed : input.conform dialect .insert call = .ok f) :
    ∃ names tuples, f = insertLayout dialect names tuples ∧
      SlotsOf dialect (input.fieldRows call) tuples ∧
      ∀ row ∈ input.fieldRows call, ∀ entry ∈ row, ∀ c, entry.positional = some c → c = "=" := by
  obtain ⟨names, tuples, layout, filled, neutral⟩ := hasSlots_of_conform input call noText conformed
  exact ⟨names, tuples, layout, filled.imp fun _ _ row => row.imp fun _ _ => Entry.sets_of_hasSlot, neutral⟩

/-- Text is taken as it is in every clause, with a negation around it if its options ask for one. -/
theorem conform_of_isText :
    ∀ (input : Input) (call : FieldOptions), input.isText = true →
      input.conform dialect clause call =
        (input.affirmed.conform dialect clause call.affirmed).map
          (fun g => if input.negatesText call then g.negate else g)
  | .overridden input options, call, text => by
    simp only [conform, affirmed, negatesText]
    rw [← FieldOptions.affirmed_merge]
    exact conform_of_isText input (call.merge options) text
  | .literal sql, call, _ | .fragment g, call, _ => by
    simp only [conform, affirmed, negatesText]
    rfl
  | .subquery query, call, _ => by
    simp only [conform, affirmed, negatesText]
    cases query.build <;> rfl
  | .mapping _, _, noText | .rows _, _, noText | .condition .., _, noText | .id _, _, noText => by
    cases noText

end Input

/-! ## Comparators of the options -/

/-- The options with another comparator, or with none. -/
def FieldOptions.comparedBy (options : FieldOptions) (c : Option String) : FieldOptions :=
  { options with comparator := c }

theorem FieldOptions.comparedBy_merge (outer inner : FieldOptions) (c : Option String) :
    (outer.comparedBy c).merge inner = (outer.merge inner).comparedBy (inner.comparator <|> c) := rfl

theorem IndicatedField.resolve_comparedBy (field : String) (call : FieldOptions) (c : Option String) :
    ∃ own, resolve field (call.comparedBy c) =
      (resolve field call).map fun known => ⟨known.name, known.options.comparedBy own⟩ := by
  unfold resolve
  cases read field with
  | error e => exact ⟨c, rfl⟩
  | ok indicated =>
    let own := indicated.options.comparator <|> c
    have checked : ((call.merge indicated.options).comparedBy own).check field =
        (call.merge indicated.options).check field := rfl
    refine ⟨own, ?_⟩
    simp only [bind, Except.bind, FieldOptions.comparedBy_merge, own, checked]
    cases (call.merge indicated.options).check field <;> rfl

theorem slot_comparedBy (call : FieldOptions) (field : String) (value : Value) (c : Option String) :
    slot dialect (call.comparedBy c) field value = slot dialect call field value := by
  obtain ⟨own, resolved⟩ := IndicatedField.resolve_comparedBy field call c
  unfold slot
  rw [resolved]
  cases IndicatedField.resolve field call <;> rfl

theorem rowsFragment_comparedBy (call : FieldOptions) (rows : List (Fields Value)) (c : Option String) :
    rowsFragment dialect (call.comparedBy c) rows = rowsFragment dialect call rows := by
  have tuple : rowTuple dialect (call.comparedBy c) = rowTuple dialect call := by
    funext row
    simp only [rowTuple, slot_comparedBy]
  simp only [rowsFragment, tuple]

/-- Both results are refused, or both are given. -/
abbrev AcceptedTogether (x y : Except AssemblyError Fragment) : Prop := Agree (fun _ _ => True) x y

theorem AcceptedTogether.refl : (x : Except AssemblyError Fragment) → AcceptedTogether x x
  | .error e => .refused e e
  | .ok _ => .given trivial

theorem fieldFragment_comparedBy (payload : clause.holdsConditions = false) (call : FieldOptions)
    (field : String) (positional : Option String) (value : Value) (c : Option String) :
    AcceptedTogether (fieldFragment dialect clause (call.comparedBy c) field positional value)
      (fieldFragment dialect clause call field positional value) := by
  obtain ⟨own, resolved⟩ := IndicatedField.resolve_comparedBy field call c
  unfold fieldFragment
  rw [resolved]
  cases IndicatedField.resolve field call with
  | error e => exact .refused e e
  | ok known =>
    simp only [Except.map, bind, Except.bind, payload, Bool.false_eq_true, if_false]
    by_cases negated : known.options.negated = true
    · rw [if_pos negated, if_pos (show (known.options.comparedBy own).negated = true from negated)]
      exact .refused _ _
    · rw [if_neg negated, if_neg (show ¬(known.options.comparedBy own).negated = true from negated)]
      cases value with
      | list items => exact .refused _ _
      | map fields => exact .refused _ _
      | scalar s =>
        rw [Comparison.assignment_scalar_eq, Comparison.assignment_scalar_eq]
        exact .given trivial

namespace Input

theorem conform_insert_comparedBy (c : Option String) : ∀ (input : Input) (call : FieldOptions),
    input.conform dialect .insert (call.comparedBy c) = input.conform dialect .insert call
  | .overridden input options, call => by
    simp only [conform, FieldOptions.comparedBy_merge]
    exact conform_insert_comparedBy _ input (call.merge options)
  | .mapping fields, call | .rows given, call => by
    simp only [conform, if_true]
    exact rowsFragment_comparedBy call _ c
  | .condition field positional value, call => by
    simp only [conform, if_true, insertField, rowsFragment_comparedBy]
  | .id _, _ | .literal _, _ | .fragment _, _ | .subquery _, _ => by
    simp only [conform]
    rfl

theorem conform_update_comparedBy (c : Option String) : ∀ (input : Input) (call : FieldOptions),
    AcceptedTogether (input.conform dialect .update (call.comparedBy c)) (input.conform dialect .update call)
  | .overridden input options, call => by
    simp only [conform, FieldOptions.comparedBy_merge]
    exact conform_update_comparedBy _ input (call.merge options)
  | .mapping fields, call => by
    simp only [conform]
    have each : List.Forall₂ (fun entry entry' : String × Value => AcceptedTogether
        (fieldFragment dialect .update (call.comparedBy c) entry.1 none entry.2)
        (fieldFragment dialect .update call entry'.1 none entry'.2)) fields.entries fields.entries :=
      List.forall₂_same.mpr fun entry _ => fieldFragment_comparedBy rfl call entry.1 none entry.2 c
    exact (Agree.mapM each).bind fun _ _ _ => .given trivial
  | .condition field positional value, call => by
    simp only [conform]
    exact fieldFragment_comparedBy rfl call field positional value c
  | .id _, _ | .rows _, _ | .literal _, _ | .fragment _, _ => by
    simp only [conform]
    constructor <;> trivial
  | .subquery query, call => by
    simp only [conform]
    exact AcceptedTogether.refl _

end Input

/-! ## Payloads -/

theorem affirmed_of_sets {written : Comparison → Scalar → Fragment} {entries : List Entry}
    {fragments : List Fragment} (set : List.Forall₂ (Entry.Sets dialect written) entries fragments) :
    ∀ entry ∈ entries, entry.isNegated = false := by
  have both := set.imp fun entry f sets => And.intro sets.affirmed sets
  exact ((List.forall₂_and_left entries fragments).mp both).1

/-- A field that a payload refuses: one that is negated, and in an insert one that is given a comparator
other than `=` by position. -/
def Entry.IsRefused (clause : Clause) (entry : Entry) : Prop :=
  entry.isNegated = true ∨ clause = .insert ∧ ∃ c, entry.positional = some c ∧ c ≠ "="

namespace Input

theorem affirmed_of_conform {input : Input} {call : FieldOptions} (payload : clause.holdsConditions = false)
    (noText : input.isText = false) (conformed : input.conform dialect clause call = .ok f) :
    ∀ row ∈ input.fieldRows call, ∀ entry ∈ row, ¬entry.IsRefused clause := by
  intro row inRows entry inRow refused
  cases clause with
  | filter | having => cases payload
  | update =>
    obtain ⟨assignments, -, set⟩ := assignments_of_conform input call noText conformed
    have affirmed := affirmed_of_sets set entry (List.mem_flatten.mpr ⟨row, inRows, inRow⟩)
    rcases refused with negated | ⟨other, -⟩
    · rw [affirmed] at negated
      cases negated
    · cases other
  | insert =>
    obtain ⟨names, tuples, -, slots, neutral⟩ := slots_of_conform input call noText conformed
    have rows := slots.imp fun row tuple set => And.intro (affirmed_of_sets set) set
    have affirmed := ((List.forall₂_and_left _ _).mp rows).1 row inRows entry inRow
    rcases refused with negated | ⟨-, c, positional, other⟩
    · rw [affirmed] at negated
      cases negated
    · exact other (neutral row inRows entry inRow c positional)

theorem fieldRows_of_isText : ∀ (input : Input) (call : FieldOptions), input.isText = true →
    input.fieldRows call = []
  | .overridden input options, call, text => fieldRows_of_isText input (call.merge options) text
  | .literal _, _, _ | .fragment _, _, _ | .subquery _, _, _ => rfl
  | .mapping _, _, noText | .rows _, _, noText | .condition .., _, noText | .id _, _, noText => by
    cases noText

/-- **Negations are refused, comparators are not.**  A payload with a field that is negated is refused,
and so is an insert with a comparator that is given by position.  An update that is accepted assigns a
scalar to each of its fields, under the comparator that reaches it.  An insert that is accepted has a
slot for each field and is the same under every comparator of the options, and neither clause is ever
refused for one.  Text is not refused for its options at all. -/
theorem conform_payload (dialect : Dialect) (input : Input) (call : FieldOptions) :
    (∀ clause row entry, clause.holdsConditions = false → row ∈ input.fieldRows call → entry ∈ row →
      entry.IsRefused clause → ∃ e, input.conform dialect clause call = .error e) ∧
    (∀ f, input.isText = false → input.conform dialect .update call = .ok f →
      ∃ assignments, f = Fragment.join .comma assignments ∧
        List.Forall₂ (Entry.Sets dialect Comparison.assigned) (input.fieldRows call).flatten assignments) ∧
    (∀ f, input.isText = false → input.conform dialect .insert call = .ok f →
      ∃ names tuples, f = insertLayout dialect names tuples ∧
        SlotsOf dialect (input.fieldRows call) tuples) ∧
    (∀ c, input.conform dialect .insert (call.comparedBy c) = input.conform dialect .insert call ∧
      AcceptedTogether (input.conform dialect .update (call.comparedBy c))
        (input.conform dialect .update call)) ∧
    (∀ clause, input.isText = true → input.conform dialect clause call =
      (input.affirmed.conform dialect clause call.affirmed).map
        (fun g => if input.negatesText call then g.negate else g)) := by
  refine ⟨?_, fun _ => assignments_of_conform input call, ?_, ?_, fun _ => conform_of_isText input call⟩
  · intro clause row entry payload inRows inRow refused
    have noText : input.isText = false := by
      rw [← Bool.not_eq_true]
      intro text
      rw [fieldRows_of_isText input call text] at inRows
      cases inRows
    cases given : input.conform dialect clause call with
    | error e => exact ⟨e, rfl⟩
    | ok f => exact absurd refused (affirmed_of_conform payload noText given row inRows entry inRow)
  · intro f noText conformed
    obtain ⟨names, tuples, layout, slots, -⟩ := slots_of_conform input call noText conformed
    exact ⟨names, tuples, layout, slots⟩
  · exact fun c => ⟨conform_insert_comparedBy c input call, conform_update_comparedBy c input call⟩

/-- A comparator of an override, one of an indicator and null beside each other, and a negated field in
the second of two rows. -/
theorem conform_payload_overridden :
    let fields : Fields Value := ⟨[("a", .scalar (.int 1)), ("?>?b", .scalar (.int 2)), ("c", .null)]⟩
    let input : Input := .overridden (.mapping fields) { comparator := some "<" }
    let rows : Input := .rows [⟨[("a", .scalar (.int 1))]⟩, ⟨[("!a", .scalar (.int 2))]⟩]
    let set : Fragment := ⟨"\"a\" < ?, \"b\" > ?, \"c\" = NULL", [.int 1, .int 2]⟩
    input.conform .generic .update {} = .ok set ∧
      (∃ assignments, set = Fragment.join .comma assignments ∧
        List.Forall₂ (Entry.Sets .generic Comparison.assigned) (input.fieldRows {}).flatten assignments) ∧
      ∃ e, rows.conform .generic .insert {} = .error e := by
  intro fields input rows set
  obtain ⟨-, assigned, -⟩ := conform_payload .generic input {}
  obtain ⟨refused, -⟩ := conform_payload .generic rows {}
  let negated : Entry := ⟨"!a", none, .scalar (.int 2), {}⟩
  have second : [negated] ∈ rows.fieldRows {} := by simp [rows, fieldRows, rowEntries, negated]
  have conformed : input.conform .generic .update {} = .ok set := rfl
  exact ⟨conformed, assigned set rfl conformed,
    refused .insert [negated] negated rfl second List.mem_cons_self (.inl (by decide))⟩

/-- A comparator in place of `=`, the same comparator where an insert refuses it and where it passes over
it, and a negation around the text of a payload. -/
theorem conform_payload_compares :
    (Input.condition "a" (some ">") (.scalar (.int 1))).conform .generic .update {} =
        .ok ⟨"\"a\" > ?", [.int 1]⟩ ∧
      (Input.condition "a" (some ">") (.scalar (.int 1))).conform .generic .insert {} =
        .error (.unrecognizedArgument (.clause .insert) "comparator Some(\">\")") ∧
      (Input.condition "?>?a" none (.scalar (.int 1))).conform .generic .insert {} =
        .ok ⟨"(\"a\")\nVALUES (?)", [.int 1]⟩ ∧
      (Input.literal "a = 1").conform .generic .update { negated := true } =
        .ok ⟨"NOT ( a = 1 )", []⟩ := by
  decide +kernel

end Input

end SqlAssembly
