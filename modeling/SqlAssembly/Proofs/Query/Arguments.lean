import Mathlib.Data.List.Induction
import SqlAssembly.Query.Input

/-! # What values stand for

A value is read by its shape: a text, an integer, a mapping and a list of mappings are inputs of
their own, and any other list is read as arguments by position.  The shapes overlap in lists of
mappings only, which are rows however many there are.  So a grammar tells what a value stands for,
another what it is refused for, and each value has one input or one error.

* `FieldOptions.ofValue_map` — the options that a mapping describes, or the entry it is refused for.
* `Value.StandsFor`, `Value.IsRefused` — the grammar, and the errors of what is not in it.
* `Input.ofValue_eq_iff` — values are read by the grammar.
-/

namespace SqlAssembly

/-! ## Options -/

namespace FieldOptions

/-- Whether an options mapping may have an entry: flags are true or false, and a comparator is a text. -/
def isEntry (entry : String × Value) : Bool :=
  match entry.2 with
  | .scalar (.bool _) => ["raw", "not", "identity"].contains entry.1
  | .scalar (.text _) => entry.1 == "compare"
  | _ => false

/-- The value that is set last under a name. -/
def last? (entries : List (String × Value)) (name : String) : Option Value :=
  (entries.reverse.find? (·.1 == name)).map Prod.snd

/-- The options that the entries of a mapping describe: the flags that are true, and the comparator. -/
def described (entries : List (String × Value)) : FieldOptions where
  raw := last? entries "raw" == some (.scalar (.bool true))
  negated := last? entries "not" == some (.scalar (.bool true))
  identity := last? entries "identity" == some (.scalar (.bool true))
  comparator :=
    match last? entries "compare" with
    | some (.scalar (.text c)) => some c
    | _ => .none

theorem last?_concat (entries : List (String × Value)) (entry : String × Value) (name : String) :
    last? (entries ++ [entry]) name = if entry.1 = name then some entry.2 else last? entries name := by
  simp only [last?, List.reverse_append, List.reverse_singleton, List.singleton_append,
    List.find?_cons]
  split <;> simp_all

theorem flag_eq (b : Bool) : (Value.scalar (.bool b) == .scalar (.bool true)) = b := by
  cases b <;> decide

/-- An entry that a mapping may have is described with the entries before it, and no other is set. -/
theorem setEntry_described (entries : List (String × Value)) (entry : String × Value) :
    setEntry (described entries) entry =
      if isEntry entry then .ok (described (entries ++ [entry]))
      else .error (.unrecognizedArgument .options entry.1) := by
  unfold setEntry
  split
  · simp [isEntry, described, last?_concat, flag_eq]
  · simp [isEntry, described, last?_concat, flag_eq]
  · simp [isEntry, described, last?_concat, flag_eq]
  · simp [isEntry, described, last?_concat]
  · next key value raw negated identity comparator =>
    rw [if_neg]
    intro allowed
    unfold isEntry at allowed
    split at allowed
    · next b flag =>
      have named : key = "raw" ∨ key = "not" ∨ key = "identity" := by simpa using allowed
      obtain rfl | rfl | rfl := named
      · exact raw b rfl flag
      · exact negated b rfl flag
      · exact identity b rfl flag
    · next c text => exact comparator c (by simpa using allowed) text
    · cases allowed

theorem ofValue_map (fields : Fields Value) :
    ofValue (.map fields) =
      match fields.entries.find? (!isEntry ·) with
      | .none => .ok (described fields.entries)
      | some entry => .error (.unrecognizedArgument .options entry.1) := by
  obtain ⟨entries⟩ := fields
  rw [ofValue]
  induction entries using List.reverseRecOn with
  | nil => rfl
  | append_singleton entries entry inductionHypothesis =>
    rw [List.foldlM_append, List.find?_append, inductionHypothesis]
    cases bad : entries.find? (!isEntry ·) with
    | some first => rfl
    | none =>
      change (setEntry (described entries) entry >>= pure) = _
      rw [bind_pure, setEntry_described]
      cases allowed : isEntry entry <;> simp [allowed]

end FieldOptions

/-! ## The grammar -/

namespace Value

/-- Whether a value is a text, as the name of a field and a comparator have to be. -/
def IsText (value : Value) : Prop := ∃ text, value = .scalar (.text text)

/-- Whether items are rows: mappings, and at least one. -/
def AreRows (items : List Value) : Prop := ∃ mappings, mappings ≠ [] ∧ items = mappings.map .map

/-- What a value stands for.  Rows are the only lists of nothing but mappings that a rule is for, so no
two rules are for the same value. -/
inductive StandsFor : Value → Input → Prop where
  | literal (sql : String) : StandsFor (.scalar (.text sql)) (.literal sql)
  | id (n : Int) : StandsFor (.scalar (.int n)) (.id n)
  | mapping (fields : Fields Value) : StandsFor (.map fields) (.mapping fields)
  | rows {mappings : List (Fields Value)} (some : mappings ≠ []) :
      StandsFor (.list (mappings.map .map)) (.rows mappings)
  -- A list of one element is that element.
  | wrapped {value : Value} {input : Input} (other : value.map? = none)
      (stands : StandsFor value input) : StandsFor (.list [value]) input
  | pair (field : String) (value : Value) :
      StandsFor (.list [.scalar (.text field), value]) (.condition field none value)
  | triple (field comparator : String) (value : Value) :
      StandsFor (.list [.scalar (.text field), .scalar (.text comparator), value])
        (.condition field (some comparator) value)
  | quadruple (field comparator : String) (value : Value) {fields : Fields Value}
      (allowed : ∀ entry ∈ fields.entries, FieldOptions.isEntry entry = true) :
      StandsFor (.list [.scalar (.text field), .scalar (.text comparator), value, .map fields])
        (.overridden (.condition field (some comparator) value) (FieldOptions.described fields.entries))

/-- What a value that stands for nothing is refused for.  Of several arguments that are at fault, the
options are told before the comparator and the comparator before the field. -/
inductive IsRefused : Value → AssemblyError → Prop where
  | scalar {s : Scalar} (noText : ∀ sql, s ≠ .text sql) (noInt : ∀ n, s ≠ .int n) :
      IsRefused (.scalar s) (.unrecognizedArgument .input s.kind)
  | wrapped {value : Value} {e : AssemblyError} (refused : IsRefused value e) :
      IsRefused (.list [value]) e
  | count {items : List Value} (other : ¬AreRows items) (wrong : items = [] ∨ 4 < items.length) :
      IsRefused (.list items) (.badArgumentCount items.length)
  | pairField {field value : Value} (other : ¬AreRows [field, value]) (noText : ¬field.IsText) :
      IsRefused (.list [field, value]) (.unrecognizedArgument .field field.kind)
  | comparator {field comparator value : Value} (other : ¬AreRows [field, comparator, value])
      (noText : ¬comparator.IsText) :
      IsRefused (.list [field, comparator, value]) (.unrecognizedArgument .field comparator.kind)
  | field {field : Value} (comparator : String) (value : Value) (noText : ¬field.IsText) :
      IsRefused (.list [field, .scalar (.text comparator), value])
        (.unrecognizedArgument .field field.kind)
  | options (field comparator value : Value) {options : Value} (noMap : options.map? = none) :
      IsRefused (.list [field, comparator, value, options])
        (.unrecognizedArgument .options options.kind)
  | entry {field comparator value : Value} {fields : Fields Value} {entry : String × Value}
      (other : ¬AreRows [field, comparator, value, .map fields])
      (first : fields.entries.find? (!FieldOptions.isEntry ·) = some entry) :
      IsRefused (.list [field, comparator, value, .map fields])
        (.unrecognizedArgument .options entry.1)
  -- Under options that are in order, three arguments are refused as they are without any.
  | underOptions {field comparator value : Value} {fields : Fields Value} {e : AssemblyError}
      (allowed : ∀ entry ∈ fields.entries, FieldOptions.isEntry entry = true)
      (refused : IsRefused (.list [field, comparator, value]) e) :
      IsRefused (.list [field, comparator, value, .map fields]) e

theorem not_areRows {items : List Value} {value : Value} (member : value ∈ items)
    (other : value.map? = none) : ¬AreRows items := by
  rintro ⟨mappings, -, rfl⟩
  obtain ⟨fields, -, rfl⟩ := List.mem_map.mp member
  cases other

theorem areRows_concat {items : List Value} (fields : Fields Value) (some : items ≠ []) :
    AreRows (items ++ [.map fields]) ↔ AreRows items := by
  constructor
  · rintro ⟨mappings, -, shape⟩
    obtain ⟨before, last, rfl, rfl, -⟩ := List.map_eq_append_iff.mp shape.symm
    exact ⟨before, by simpa using some, rfl⟩
  · rintro ⟨mappings, -, rfl⟩
    exact ⟨mappings ++ [fields], by simp, by simp⟩

end Value

/-! ## Reading follows the grammar -/

namespace Input

open Value (AreRows)

theorem rows?_eq_some_iff {items : List Value} {mappings : List (Fields Value)} :
    rows? items = some mappings ↔ mappings ≠ [] ∧ items = mappings.map .map := by
  have mapped : items.mapM Value.map? = some mappings ↔ items = mappings.map .map := by
    induction items generalizing mappings with
    | nil => cases mappings <;> simp
    | cons item items inductionHypothesis =>
      cases item <;> cases mappings <;>
        simp [List.mapM_cons, Value.map?, Option.bind_eq_some_iff, inductionHypothesis, and_comm]
  rw [rows?]
  cases items <;> cases mappings <;> simp_all

theorem ofValue_rows {mappings : List (Fields Value)} (some : mappings ≠ []) :
    ofValue (.list (mappings.map .map)) = .ok (.rows mappings) := by
  rw [ofValue, rows?_eq_some_iff.mpr ⟨some, rfl⟩]

theorem ofValue_list {items : List Value} (other : ¬AreRows items) :
    ofValue (.list items) = ofArguments items := by
  rw [ofValue]
  cases read : rows? items with
  | none => rfl
  | some mappings => exact absurd ⟨mappings, rows?_eq_some_iff.mp read⟩ other

theorem fieldText_of_not_isText {value : Value} (noText : ¬value.IsText) :
    fieldText value = .error (.unrecognizedArgument .field value.kind) := by
  unfold fieldText
  split
  · exact absurd ⟨_, rfl⟩ noText
  · rfl

theorem ofArguments_underOptions {fields : Fields Value} (field comparator value : Value)
    (allowed : ∀ entry ∈ fields.entries, FieldOptions.isEntry entry = true) :
    ofArguments [field, comparator, value, .map fields] =
      (.overridden · (.described fields.entries)) <$> ofArguments [field, comparator, value] := by
  have none : fields.entries.find? (!FieldOptions.isEntry ·) = none := by simpa using allowed
  change ofQuadruple field comparator value (.map fields) = _ <$> ofTriple field comparator value
  rw [ofQuadruple, FieldOptions.ofValue_map, none]
  rfl

theorem ofValue_of_standsFor {value : Value} {input : Input} (stands : value.StandsFor input) :
    ofValue value = .ok input := by
  induction stands with
  | literal sql => rfl
  | id n => rfl
  | mapping fields => rfl
  | rows some => exact ofValue_rows some
  | wrapped other _ inductionHypothesis =>
    rw [ofValue_list (Value.not_areRows List.mem_cons_self other)]
    exact inductionHypothesis
  | pair field value =>
    rw [ofValue_list (Value.not_areRows List.mem_cons_self rfl)]
    rfl
  | triple field comparator value =>
    rw [ofValue_list (Value.not_areRows List.mem_cons_self rfl)]
    rfl
  | quadruple field comparator value allowed =>
    rw [ofValue_list (Value.not_areRows List.mem_cons_self rfl),
      ofArguments_underOptions _ _ _ allowed]
    rfl

theorem ofValue_of_isRefused {value : Value} {e : AssemblyError} (refused : value.IsRefused e) :
    ofValue value = .error e := by
  induction refused with
  | scalar noText noInt =>
    unfold ofValue
    split <;> simp_all
  | @wrapped value e _ inductionHypothesis =>
    have other : value.map? = none := by
      cases value with
      | map fields => cases inductionHypothesis
      | _ => rfl
    rw [ofValue_list (Value.not_areRows List.mem_cons_self other)]
    exact inductionHypothesis
  | count other wrong =>
    rw [ofValue_list other, ofArguments]
    unfold ofValue.ofItems
    split <;> simp_all
  | pairField other noText =>
    rw [ofValue_list other, ofArguments, ofValue.ofItems, ofPair, fieldText_of_not_isText noText]
    rfl
  | comparator other noText =>
    rw [ofValue_list other, ofArguments, ofValue.ofItems, ofTriple, fieldText_of_not_isText noText]
    rfl
  | field comparator value noText =>
    rw [ofValue_list (Value.not_areRows (List.mem_cons_of_mem _ List.mem_cons_self) rfl),
      ofArguments, ofValue.ofItems, ofTriple, fieldText_of_not_isText noText]
    rfl
  | @options field comparator value options noMap =>
    rw [ofValue_list (Value.not_areRows (by simp) noMap), ofArguments, ofValue.ofItems, ofQuadruple]
    cases options with
    | map fields => cases noMap
    | _ => rfl
  | entry other first =>
    rw [ofValue_list other, ofArguments, ofValue.ofItems, ofQuadruple, FieldOptions.ofValue_map, first]
    rfl
  | @underOptions field comparator value fields e allowed _ inductionHypothesis =>
    -- Rows are read, so what is refused without the options are no rows, and none with them.
    have other : ¬AreRows [field, comparator, value] := by
      rintro ⟨mappings, some, shape⟩
      rw [shape, ofValue_rows some] at inductionHypothesis
      cases inductionHypothesis
    have otherToo : ¬AreRows [field, comparator, value, .map fields] := fun rows =>
      other ((Value.areRows_concat fields (List.cons_ne_nil _ _)).mp rows)
    rw [ofValue_list other] at inductionHypothesis
    rw [ofValue_list otherToo, ofArguments_underOptions _ _ _ allowed, inductionHypothesis]
    rfl

end Input

/-! ## Every value is in the grammar or refused -/

namespace Value

theorem texts_or_isRefused {field comparator value : Value}
    (other : ¬AreRows [field, comparator, value]) :
    field.IsText ∧ comparator.IsText ∨ ∃ e, IsRefused (.list [field, comparator, value]) e := by
  by_cases compared : comparator.IsText
  · by_cases named : field.IsText
    · exact .inl ⟨named, compared⟩
    · obtain ⟨comparator, rfl⟩ := compared
      exact .inr ⟨_, .field comparator value named⟩
  · exact .inr ⟨_, .comparator other compared⟩

theorem standsFor_or_isRefused_list {items : List Value} (other : ¬AreRows items)
    (single : ∀ value, items = [value] →
      (∃ input, value.StandsFor input) ∨ ∃ e, value.IsRefused e) :
    (∃ input, StandsFor (.list items) input) ∨ ∃ e, IsRefused (.list items) e := by
  match items with
  | [] => exact .inr ⟨_, .count other (.inl rfl)⟩
  | [value] =>
    obtain ⟨input, stands⟩ | ⟨e, refused⟩ := single value rfl
    · refine .inl ⟨input, .wrapped ?_ stands⟩
      cases value with
      | map fields => exact absurd ⟨[fields], List.cons_ne_nil _ _, rfl⟩ other
      | _ => rfl
    · exact .inr ⟨e, .wrapped refused⟩
  | [field, value] =>
    by_cases named : field.IsText
    · obtain ⟨field, rfl⟩ := named
      exact .inl ⟨_, .pair field value⟩
    · exact .inr ⟨_, .pairField other named⟩
  | [field, comparator, value] =>
    obtain ⟨⟨field, rfl⟩, comparator, rfl⟩ | refused := texts_or_isRefused other
    · exact .inl ⟨_, .triple field comparator value⟩
    · exact .inr refused
  | [field, comparator, value, .map fields] =>
    cases bad : fields.entries.find? (!FieldOptions.isEntry ·) with
    | some entry => exact .inr ⟨_, .entry other bad⟩
    | none =>
      have allowed : ∀ entry ∈ fields.entries, FieldOptions.isEntry entry = true := by
        simpa using bad
      have otherThree : ¬AreRows [field, comparator, value] :=
        mt (areRows_concat fields (List.cons_ne_nil _ _)).mpr other
      obtain ⟨⟨field, rfl⟩, comparator, rfl⟩ | ⟨e, refused⟩ := texts_or_isRefused otherThree
      · exact .inl ⟨_, .quadruple field comparator value allowed⟩
      · exact .inr ⟨_, .underOptions allowed refused⟩
  | [field, comparator, value, .scalar _] | [field, comparator, value, .list _] =>
    exact .inr ⟨_, .options field comparator value rfl⟩
  | first :: second :: third :: fourth :: fifth :: more =>
    exact .inr ⟨_, .count other (.inr (by simp))⟩

theorem standsFor_or_isRefused : (value : Value) →
    (∃ input, value.StandsFor input) ∨ ∃ e, value.IsRefused e
  | .scalar s => by
    cases s with
    | text sql => exact .inl ⟨_, .literal sql⟩
    | int n => exact .inl ⟨_, .id n⟩
    | _ => exact .inr ⟨_, .scalar nofun nofun⟩
  | .map fields => .inl ⟨_, .mapping fields⟩
  | .list items => by
    by_cases rows : AreRows items
    · obtain ⟨mappings, some, rfl⟩ := rows
      exact .inl ⟨_, .rows some⟩
    · exact standsFor_or_isRefused_list rows fun value _ => standsFor_or_isRefused value

end Value

/-- **Values are read by the grammar.**  A value is read as an input exactly if it stands for that input,
however deep the argument lists around it, and it is refused with an error exactly if it is refused for
that. -/
theorem Input.ofValue_eq_iff (value : Value) :
    (∀ input, ofValue value = .ok input ↔ value.StandsFor input) ∧
      ∀ e, ofValue value = .error e ↔ value.IsRefused e := by
  refine ⟨fun input => ⟨fun read => ?_, ofValue_of_standsFor⟩,
    fun e => ⟨fun read => ?_, ofValue_of_isRefused⟩⟩
  · obtain ⟨stated, stands⟩ | ⟨e, refused⟩ := value.standsFor_or_isRefused
    · rw [ofValue_of_standsFor stands] at read
      cases read
      exact stands
    · rw [ofValue_of_isRefused refused] at read
      cases read
  · obtain ⟨input, stands⟩ | ⟨stated, refused⟩ := value.standsFor_or_isRefused
    · rw [ofValue_of_standsFor stands] at read
      cases read
    · rw [ofValue_of_isRefused refused] at read
      cases read
      exact refused

/-- Three arguments under options, and a list of that list. -/
example :
    let arguments : Value :=
      .list [.scalar (.text "a"), .scalar (.text ">"), .scalar (.int 1),
        .map ⟨[("not", .scalar (.bool true)), ("raw", .scalar (.bool false))]⟩]
    Input.ofValue (.list [arguments]) =
      .ok (.overridden (.condition "a" (some ">") (.scalar (.int 1))) { negated := true }) := by
  rfl

end SqlAssembly
