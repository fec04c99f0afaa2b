import SqlAssembly.Proofs.Query.Entries
import SqlAssembly.Proofs.Text.Case

/-! # The polarity of tests on lists and null

A list and null are tested under words of their own, and all that is left of the comparator is
whether the words are the negative ones.  Four comparators ask for the contrary of a test, two of
them symbols and two of them words.  Only the symbols are understood: under one of the words a list
or null is tested as it is without a comparator.

* `isContrary`, `isContraryWord` — comparators that ask for the contrary, and the words among them.
* `isNegativeComparator_eq` — the symbols are what is understood.
* `Comparison.setTest` — the test of a column on a list or on null, in either polarity.
* `Input.conform_polarity` — the polarity of all tests that an input gives.
-/

namespace SqlAssembly

/-! ## Comparators that ask for the contrary -/

namespace Text

/-- A capital that is no letter was none before. -/
theorem toUpper_of_isAlpha_eq_false {c : Char} (other : c.toUpper.isAlpha = false) : c.toUpper = c := by
  have range : ¬(65 ≤ c.toUpper.toNat ∧ c.toUpper.toNat ≤ 90) := by
    intro capital
    have letter : c.toUpper.isAlpha = true := (Bool.or_eq_true _ _).mpr (.inl (decide_eq_true capital))
    rw [other] at letter
    cases letter
  rw [toNat_toUpper] at range
  rw [← Char.toNat_inj, toNat_toUpper]
  by_cases small : 97 ≤ c.toNat ∧ c.toNat ≤ 122
  · rw [if_pos small] at range
    omega
  · rw [if_neg small]

/-- Without letters, two texts that differ in case only are the same. -/
theorem asciiUpper_eq_iff {s t : String} (noLetters : ∀ c ∈ t.toList, c.isAlpha = false) :
    asciiUpper s = t ↔ s = t := by
  have chars : asciiUpper s = t ↔ s.toList.map Char.toUpper = t.toList := by
    rw [← String.toList_inj, asciiUpper, String.toList_ofList]
  rw [chars, ← String.toList_inj]
  constructor
  · intro same
    have kept : ∀ c ∈ s.toList, c.toUpper = c := fun c member =>
      toUpper_of_isAlpha_eq_false (noLetters _ (same ▸ List.mem_map_of_mem member))
    rw [← same, List.map_congr_left kept, List.map_id']
  · intro same
    rw [same]
    refine (List.map_congr_left fun c member => dif_neg fun lower => ?_).trans (List.map_id' _)
    have small : c.isLower = true :=
      (Bool.and_eq_true _ _).mpr ⟨decide_eq_true lower.1, decide_eq_true lower.2⟩
    have letter : c.isAlpha = true := (Bool.or_eq_true _ _).mpr (.inr small)
    rw [noLetters c member] at letter
    cases letter

end Text

/-- Comparators that ask for the contrary of a test, in any case and with blanks around them. -/
def isContrary (comparator : String) : Bool :=
  Text.asciiUpper (Text.trim comparator) ∈ ["!=", "<>", "NOT IN", "IS NOT"]

/-- The words among the comparators that ask for the contrary. -/
def isContraryWord (comparator : String) : Bool :=
  Text.asciiUpper (Text.trim comparator) ∈ ["NOT IN", "IS NOT"]

/-- Of the comparators that ask for the contrary, those that are no words are understood. -/
theorem isNegativeComparator_eq (comparator : String) :
    isNegativeComparator comparator = (isContrary comparator && !isContraryWord comparator) := by
  have unequal : Text.asciiUpper (Text.trim comparator) = "!=" ↔ Text.trim comparator = "!=" :=
    Text.asciiUpper_eq_iff (by simp)
  have different : Text.asciiUpper (Text.trim comparator) = "<>" ↔ Text.trim comparator = "<>" :=
    Text.asciiUpper_eq_iff (by simp)
  simp only [isNegativeComparator, isContrary, isContraryWord, ← unequal, ← different]
  generalize Text.asciiUpper (Text.trim comparator) = word
  by_cases first : word = "!="
  · simp [first]
  · by_cases second : word = "<>"
    · simp [second]
    · simpa [first, second] using Or.resolve_left

/-! ## Tests -/

/-- What a column is tested on under words of the test itself. -/
inductive SetOperand where
  | list (items : List Scalar)
  | null

namespace Comparison

/-- The test of a column on a list or on null, or the contrary test. -/
def setTest (c : Comparison) (contrary : Bool) : SetOperand → Fragment
  | .list items =>
    let listed := Fragment.listed ", " (items.map (c.options.rendered c.dialect))
    ⟨c.column ++ (if contrary then " NOT IN (" else " IN (") ++ listed.sql ++ ")", listed.params⟩
  | .null => .raw (c.column ++ if contrary then " IS NOT NULL" else " IS NULL")

/-- The list of scalars or the null that a value stands for in a test.  Null as SQL text or as an
identifier is compared like any other scalar. -/
def setOperand? (c : Comparison) : Value → Option SetOperand
  | .list items => (Value.toScalars items).toOption.map .list
  | .scalar .null => if c.binds then some .null else none
  | _ => none

theorem test_of_setOperand {c : Comparison} {value : Value} {operand : SetOperand} {test : Fragment}
    (asked : c.setOperand? value = some operand) (tested : c.test value = .ok test) :
    test = c.setTest (isNegativeComparator c.comparator) operand := by
  cases value with
  | map fields => cases asked
  | list items =>
    obtain ⟨scalars, bound, rfl⟩ := Option.map_eq_some_iff.mp asked
    have known : Value.toScalars items = .ok scalars := by
      cases given : Value.toScalars items with
      | error e =>
        rw [given] at bound
        cases bound
      | ok found =>
        rw [given] at bound
        cases bound
        rfl
    cases items with
    | nil => cases tested
    | cons item items =>
      simp only [Comparison.test, known] at tested
      cases tested
      exact c.membership_eq scalars
  | scalar s =>
    cases s with
    | null =>
      obtain ⟨binds, given⟩ : c.binds = true ∧ SetOperand.null = operand := by
        simpa [setOperand?] using asked
      subst given
      simp only [Comparison.test, if_pos binds] at tested
      cases tested
      rfl
    | bool | int | float | text | blob => cases asked

end Comparison

/-- A field whose value is a list or null is tested in the polarity that its comparator asks for,
unless the comparator is a word. -/
structure Entry.HasPolarity (dialect : Dialect) (entry : Entry) (f : Fragment)
    (indicated : IndicatedField) (contrary : Bool) : Prop where
  read : IndicatedField.read entry.field = .ok indicated
  contrary_iff : contrary = true ↔
    isContrary (entry.comparison dialect indicated).comparator = true ∧
      isContraryWord (entry.comparison dialect indicated).comparator = false
  test : ∀ operand, (entry.comparison dialect indicated).setOperand? entry.value = some operand →
    f = (entry.comparison dialect indicated).qualify
      ((entry.comparison dialect indicated).setTest contrary operand)

/-- **Symbols keep their polarity, words lose it.**  Every field of a condition that has a list or
null as its value becomes a test of its own, whichever way its comparator is given.  The test is the
negative one exactly under a comparator that asks for the contrary and is no word: a comparator that
does not ask for the contrary never gives the negative test, and one of the two words gives the
positive one. -/
theorem Input.conform_polarity {dialect : Dialect} {clause : Clause} {input : Input}
    {call : FieldOptions} {entries : List Entry} {f : Fragment}
    (conditions : clause.holdsConditions = true) (held : input.entries? call = some entries)
    (conformed : input.conform dialect clause call = .ok f) :
    ∃ tests, f = Fragment.join .and tests ∧
      List.Forall₂ (fun entry test => ∃ indicated contrary,
        entry.HasPolarity dialect test indicated contrary) entries tests := by
  have other := Clause.ne_insert_of_conditions conditions
  obtain ⟨tests, each, joined⟩ := fragments_of_conform other input call held conformed
  rw [Clause.combinator, if_pos conditions] at joined
  refine ⟨tests, joined, each.imp fun entry test conformed => ?_⟩
  obtain ⟨indicated, bare, read, -, tested, rfl⟩ := Entry.test_of_fragment conditions conformed
  refine ⟨indicated, isNegativeComparator (entry.comparison dialect indicated).comparator, read, ?_, ?_⟩
  · rw [isNegativeComparator_eq, Bool.and_eq_true, Bool.not_eq_true']
  · intro operand asked
    rw [Comparison.test_of_setOperand asked tested]

/-- Options give one field its comparator, and indicators give the others theirs; a negation stands
around the test and leaves its words alone. -/
theorem Input.conform_polarity_having :
    let fields : Fields Value :=
      ⟨[("id", .list [.scalar (.int 1), .scalar .null]), ("!?<>?gone", .null),
        ("?LIKE?tag", .list [.scalar (.text "a")])]⟩
    let input : Input := .overridden (.mapping fields) { comparator := some " != " }
    let text := "\x60id\x60 NOT IN (?, ?)\n\tAND NOT ( \x60gone\x60 IS NOT NULL )\n\tAND \x60tag\x60 IN (?)"
    input.conform .mysql .having {} = .ok ⟨text, [.int 1, .null, .text "a"]⟩ ∧
      ∃ entries tests, entries.map Entry.field = fields.keys ∧
        Fragment.join .and tests = ⟨text, [.int 1, .null, .text "a"]⟩ ∧
        List.Forall₂ (fun entry test => ∃ indicated contrary,
          Entry.HasPolarity .mysql entry test indicated contrary) entries tests := by
  intro fields input text
  have conformed : input.conform .mysql .having {} = .ok ⟨text, [.int 1, .null, .text "a"]⟩ := rfl
  obtain ⟨tests, joined, polar⟩ := Input.conform_polarity rfl rfl conformed
  exact ⟨conformed, _, tests, rfl, joined.symm, polar⟩

/-- A word that asks for the contrary gives the positive test, by position, as an option and as an
indicator; beside it, null as SQL text keeps the word. -/
theorem Input.conform_inverts_words :
    isContrary " not in " = true ∧ isContrary "IS NOT" = true ∧
      (Input.condition "id" (some " not in ") (.list [.scalar (.int 1)])).conform .generic .filter {} =
        .ok ⟨"\"id\" IN (?)", [.int 1]⟩ ∧
      (Input.condition "?NOT IN?id" none (.list [.scalar (.int 1)])).conform .sqlite .having {} =
        .ok ⟨"\"id\" IN (?)", [.int 1]⟩ ∧
      (Input.condition "gone" none .null).conform .generic .filter { comparator := some "IS NOT" } =
        .ok ⟨"\"gone\" IS NULL", []⟩ ∧
      (Input.condition "gone" (some "IS NOT") .null).conform .generic .filter { raw := true } =
        .ok ⟨"\"gone\" IS NOT NULL", []⟩ := by
  decide +kernel

end SqlAssembly
