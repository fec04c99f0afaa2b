import SqlAssembly.Proofs.Query.Entries

/-! # Joining joined fragments

Next to an empty text the separator is left out, and parameters are kept in any case.  So what is
joined comes to the texts that are not empty and to all parameters, and it makes no difference
which of the fragments were joined before.  A sequence of texts and parameters is joined in the
same way as long as none of its texts is empty, for there the separator always stands.

* `Fragment.append_intercalate` — joined texts are appended as the texts in a row.
* `Fragment.join_eq`, `Fragment.join_append` — what joining comes to, and joining in two goes.
* `Requires` — a computation refuses the first value that is no scalar.
* `Fragment.combine_flattens` — the laws of combining.
-/

namespace SqlAssembly

variable {combinator : Combinator}

/-! ## Joining -/

namespace Fragment

theorem intercalate_ne_empty (separator : String) {texts : List String} (given : texts ≠ [])
    (nonempty : "" ∉ texts) : separator.intercalate texts ≠ "" := by
  obtain ⟨text, rest, rfl⟩ := List.exists_cons_of_ne_nil given
  have first : text ≠ "" := fun nothing => nonempty (nothing ▸ List.mem_cons_self)
  cases rest with
  | nil => rwa [String.intercalate_singleton]
  | cons next rest =>
    rw [String.intercalate_cons_cons, String.append_assoc]
    intro nothing
    exact first (String.append_eq_empty_iff.mp nothing).1

/-- Of two lists of texts, each joined, one that holds none brings no separator. -/
theorem append_intercalate (separator : String) {texts more : List String} (left : "" ∉ texts)
    (right : "" ∉ more) (params params' : List Scalar) :
    (Fragment.mk (separator.intercalate texts) params).append
        ⟨separator.intercalate more, params'⟩ separator =
      ⟨separator.intercalate (texts ++ more), params ++ params'⟩ := by
  by_cases second : more = []
  · simp [second, append]
  · have visible := intercalate_ne_empty separator second right
    by_cases first : texts = []
    · simp [first, visible, append]
    · have begun := intercalate_ne_empty separator first left
      simp [begun, visible, append, String.intercalate_append_of_ne_nil first second]

/-- The texts of fragments that are not empty. -/
def visibleTexts (fragments : List Fragment) : List String := (fragments.map sql).filter (· ≠ "")

theorem notMem_visibleTexts (fragments : List Fragment) : "" ∉ visibleTexts fragments := by
  simp [visibleTexts]

theorem intercalate_visibleTexts_singleton (separator : String) (f : Fragment) :
    separator.intercalate (visibleTexts [f]) = f.sql := by
  by_cases nothing : f.sql = "" <;> simp [visibleTexts, nothing]

/-- Joined fragments have the texts that are not empty, with the separator between any two, and all
parameters in order. -/
theorem join_eq (combinator : Combinator) (fragments : List Fragment) :
    join combinator fragments =
      ⟨combinator.text.intercalate (visibleTexts fragments), fragments.flatMap params⟩ := by
  -- the fold has joined the fragments before
  have folded (before rest : List Fragment) :
      rest.foldl (fun (joined f : Fragment) => joined.append f combinator.text)
          ⟨combinator.text.intercalate (visibleTexts before), before.flatMap params⟩ =
        ⟨combinator.text.intercalate (visibleTexts (before ++ rest)),
          (before ++ rest).flatMap params⟩ := by
    induction rest generalizing before with
    | nil => rw [List.foldl_nil, List.append_nil]
    | cons f rest inductionHypothesis =>
      have next := append_intercalate combinator.text (notMem_visibleTexts before)
        (notMem_visibleTexts [f]) (before.flatMap params) f.params
      rw [intercalate_visibleTexts_singleton] at next
      have appended := inductionHypothesis (before ++ [f])
      rw [List.append_assoc, List.singleton_append] at appended
      rw [List.foldl_cons, next, ← appended]
      simp [visibleTexts]
  exact folded [] fragments

theorem join_append (combinator : Combinator) (fragments more : List Fragment) :
    join combinator (fragments ++ more) =
      (join combinator fragments).append (join combinator more) combinator.text := by
  rw [join_eq, join_eq, join_eq, append_intercalate _ (notMem_visibleTexts fragments)
    (notMem_visibleTexts more)]
  simp [visibleTexts]

theorem join_cons (combinator : Combinator) (f : Fragment) (rest : List Fragment) :
    join combinator (f :: rest) = f.append (join combinator rest) combinator.text := by
  rw [← List.singleton_append, join_append, join_singleton]

/-! ## Combining -/

theorem combine_cons (source : FragmentSource) (rest : List FragmentSource) (combinator : Combinator) :
    combine (source :: rest) combinator = do
      let f ← conform source .newline
      let g ← combine rest combinator
      return f.append g combinator.text := by
  simp only [combine, List.mapM_cons]
  cases conform source .newline with
  | error e => rfl
  | ok f =>
    cases rest.mapM (conform · .newline) with
    | error e => rfl
    | ok others => exact congrArg Except.ok (join_cons combinator f others)

/-- Combining in two goes, also where one of them is refused. -/
theorem combine_append (sources more : List FragmentSource) (combinator : Combinator) :
    combine (sources ++ more) combinator = do
      let f ← combine sources combinator
      let g ← combine more combinator
      return f.append g combinator.text := by
  simp only [combine, List.mapM_append]
  cases sources.mapM (conform · .newline) with
  | error e => rfl
  | ok fragments =>
    cases more.mapM (conform · .newline) with
    | error e => rfl
    | ok others => exact congrArg Except.ok (join_append combinator fragments others)

theorem combine_pair (f g : Fragment) (combinator : Combinator) :
    combine [.fragment f, .fragment g] combinator = .ok (f.append g combinator.text) := by
  have joined : join combinator [f, g] = f.append g combinator.text := by
    rw [join_cons, join_singleton]
  exact congrArg Except.ok joined

end Fragment

/-! ## Sequences -/

/-- An element of a sequence by itself; a parameter list has no text. -/
def Part.source : Part → FragmentSource
  | .sql text => .text text
  | .params values => .parts [.params values]
  | .fragment f => .fragment f

namespace Fragment

theorem conform_source (part : Part) :
    conform part.source combinator = do
      let params ← part.parameters
      return ⟨combinator.text.intercalate part.texts, params⟩ := by
  cases part with
  | sql text => simp [Part.source, Part.texts, Part.parameters, conform, raw]
  | params values =>
    simp only [Part.source, conform, List.mapM_cons, List.mapM_nil]
    cases Part.parameters (.params values) <;> simp
  | fragment f => simp [Part.source, Part.texts, Part.parameters, conform]

theorem conform_parts_cons {part : Part} {parts : List Part} (first : "" ∉ part.texts)
    (rest : "" ∉ parts.flatMap Part.texts) :
    conform (.parts (part :: parts)) combinator = do
      let f ← conform part.source combinator
      let g ← conform (.parts parts) combinator
      return f.append g combinator.text := by
  rw [conform_source]
  simp only [conform, List.mapM_cons]
  cases part.parameters with
  | error e => rfl
  | ok params =>
    cases parts.mapM Part.parameters with
    | error e => rfl
    | ok others =>
      exact congrArg Except.ok (append_intercalate _ first rest params others.flatten).symm

/-- An element has one text at most, and so nothing stands between its texts. -/
theorem conform_source_newline (part : Part) (combinator : Combinator) :
    conform part.source .newline = conform part.source combinator := by
  cases part <;> rfl

theorem conform_parts_eq_combine {parts : List Part} (visible : "" ∉ parts.flatMap Part.texts) :
    conform (.parts parts) combinator = combine (parts.map Part.source) combinator := by
  induction parts with
  | nil => rfl
  | cons part parts inductionHypothesis =>
    rw [List.flatMap_cons, List.mem_append, not_or] at visible
    obtain ⟨first, rest⟩ := visible
    rw [conform_parts_cons first rest, List.map_cons, combine_cons, inductionHypothesis rest,
      conform_source_newline part combinator]

end Fragment

/-! ## Values that are no scalars -/

/-- The values of an element that have to be scalars, in order. -/
def Part.values : Part → List Value
  | .params values => values
  | _ => []

def FragmentSource.values : FragmentSource → List Value
  | .parts elements => elements.flatMap Part.values
  | _ => []

/-- A computation needs scalars: it is refused exactly for the first value that is none. -/
def Requires {α : Type} (values : List Value) (result : Except AssemblyError α) : Prop :=
  ∀ e, result = .error e ↔
    ∃ value, values.find? (·.scalar?.isNone) = some value ∧ e = .nonScalarParameter value

namespace Requires

variable {α β : Type} {values more : List Value}

theorem ok (a : α) : Requires [] (.ok a) := fun e => by simp

theorem bind {result : Except AssemblyError α} {next : α → Except AssemblyError β}
    (first : Requires values result) (second : ∀ a, Requires more (next a)) :
    Requires (values ++ more) (result >>= next) := by
  intro e
  rw [List.find?_append]
  cases result with
  | error e' =>
    obtain ⟨value, found, rfl⟩ := (first e').mp rfl
    rw [found, Option.some_or]
    constructor
    · rintro ⟨⟩
      exact ⟨value, rfl, rfl⟩
    · rintro ⟨_, ⟨⟩, rfl⟩
      rfl
  | ok a =>
    have all : values.find? (·.scalar?.isNone) = none := by
      rw [← Option.not_isSome_iff_eq_none, Option.isSome_iff_exists]
      rintro ⟨value, found⟩
      cases (first (.nonScalarParameter value)).mpr ⟨value, found, rfl⟩
    rw [all, Option.none_or]
    exact second a e

theorem map {result : Except AssemblyError α} (required : Requires values result) (f : α → β) :
    Requires values (result >>= fun a => .ok (f a)) := by
  simpa using required.bind fun a => Requires.ok (f a)

theorem mapM {f : α → Except AssemblyError β} {held : α → List Value} {xs : List α}
    (required : ∀ x ∈ xs, Requires (held x) (f x)) : Requires (xs.flatMap held) (xs.mapM f) := by
  induction xs with
  | nil => exact .ok []
  | cons x xs inductionHypothesis =>
    obtain ⟨first, rest⟩ := List.forall_mem_cons.mp required
    rw [List.mapM_cons, List.flatMap_cons]
    exact first.bind fun y => (inductionHypothesis rest).map (y :: ·)

end Requires

theorem Value.requires_toScalar (value : Value) : Requires [value] value.toScalar := by
  intro e
  cases value <;> simp [toScalar, scalar?, eq_comm]

theorem Part.requires_parameters (part : Part) : Requires part.values part.parameters := by
  cases part with
  | sql text => exact .ok []
  | params values =>
    have all : Requires (values.flatMap fun value => [value]) (values.mapM Value.toScalar) :=
      .mapM fun value _ => value.requires_toScalar
    rwa [List.flatMap_singleton'] at all
  | fragment f => exact .ok f.params

namespace Fragment

theorem requires_conform (source : FragmentSource) (combinator : Combinator) :
    Requires source.values (conform source combinator) := by
  cases source with
  | text sql => exact .ok (raw sql)
  | parts parts => exact (Requires.mapM fun part _ => part.requires_parameters).map _
  | fragment f => exact .ok f

theorem requires_combine (sources : List FragmentSource) (combinator : Combinator) :
    Requires (sources.flatMap FragmentSource.values) (combine sources combinator) :=
  (Requires.mapM fun source _ => requires_conform source .newline).map _

/-- **Combining is a join that flattens.**  What is combined has the texts that are not empty, with the
separator between any two, and all parameters in order.  One fragment is combined as it is, and it makes
no difference which sources are combined before.  A sequence without an empty text is the combination
of its elements.  The first value that is no scalar is what a combination or a sequence is refused for. -/
theorem combine_flattens (combinator : Combinator) :
    (∀ (sources : List FragmentSource) (fragments : List Fragment),
        sources.mapM (conform · .newline) = .ok fragments →
        combine sources combinator = .ok
          ⟨combinator.text.intercalate ((fragments.map sql).filter (· ≠ "")),
            fragments.flatMap params⟩) ∧
      (∀ f, combine [.fragment f] combinator = .ok f) ∧
      (∀ sources more : List FragmentSource,
        (do
          let f ← combine sources combinator
          let g ← combine more combinator
          combine [.fragment f, .fragment g] combinator) = combine (sources ++ more) combinator) ∧
      (∀ parts : List Part, (∀ part ∈ parts, "" ∉ part.texts) →
        conform (.parts parts) combinator = combine (parts.map Part.source) combinator) ∧
      (∀ sources : List FragmentSource,
        Requires (sources.flatMap FragmentSource.values) (combine sources combinator)) ∧
      ∀ source : FragmentSource, Requires source.values (conform source combinator) := by
  refine ⟨fun sources fragments conformed => ?_, fun f => ?_, fun sources more => ?_,
    fun parts visible => ?_, fun sources => requires_combine sources combinator,
    fun source => requires_conform source combinator⟩
  · rw [combine, conformed]
    exact congrArg Except.ok (join_eq combinator fragments)
  · exact congrArg Except.ok (join_singleton combinator f)
  · simp only [combine_append, combine_pair]
    rfl
  · refine conform_parts_eq_combine fun member => ?_
    obtain ⟨part, present, nothing⟩ := List.mem_flatMap.mp member
    exact visible part present nothing

/-- Empty texts at the front and in the middle, one of them with a parameter, and a sequence with a list
among its parameters behind them. -/
theorem combine_flattens_conditions :
    let one : List Part := [.sql "a = ?", .params [.scalar (.int 1)]]
    let two : List Part := one ++ [.sql "b"]
    let sources : List FragmentSource := [.text "", .parts one, .fragment ⟨"", [.text "x"]⟩, .text "b"]
    let refused : List Part := [.params [.scalar .null, .list []], .params [.map .empty]]
    combine sources .and = .ok ⟨"a = ?\n\tAND b", [.int 1, .text "x"]⟩ ∧
      conform (.parts two) .and = combine (two.map Part.source) .and ∧
      combine (sources ++ [.parts refused]) .and = .error (.nonScalarParameter (.list [])) := by
  intro one two sources refused
  obtain ⟨joined, -, -, sequence, required, -⟩ := combine_flattens .and
  refine ⟨?_, sequence two (by decide), ?_⟩
  · exact joined sources [.empty, ⟨"a = ?", [.int 1]⟩, ⟨"", [.text "x"]⟩, .raw "b"] rfl
  · exact (required _ _).mpr ⟨.list [], rfl, rfl⟩

end Fragment

end SqlAssembly
