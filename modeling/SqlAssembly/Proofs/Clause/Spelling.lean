import Mathlib.Data.List.TakeDrop
import Mathlib.Data.List.TakeWhile
import SqlAssembly.FieldOptions
import SqlAssembly.Proofs.Success

/-! # How a field is spelled

A field is written as its flags, then a comparator between question marks, then its name.  Each
flag stands at most once, the flags of SQL text and of identifiers exclude each other, and a
comparator is neither blank nor does it hold a question mark.  A name may hold any characters, those
of indicators included, but it cannot start with one unless a comparator stands in front of it.

The reader takes flags greedily and looks for the comparator afterwards.  It accepts exactly the
spellings of the grammar, and no field has two of them.

* `Spelling`, `Spelling.IsProper` — the grammar.
* `takeFlags_eq_ok_iff` — the flags that the reader takes.
* `Spelling.eq_of_text_eq` — a text has one spelling at most.
* `read_eq_spelling` — what the reader makes of any field.
-/

namespace SqlAssembly

/-- The characters of flags: SQL text, negation, identifier. -/
def flagChars : List Char := ['"', '!', ':']

namespace FieldOptions

def hasFlag (options : FieldOptions) (c : Char) : Bool :=
  if c = '"' then options.raw else if c = '!' then options.negated
  else if c = ':' then options.identity else false

def setFlag (options : FieldOptions) (c : Char) : FieldOptions :=
  if c = '"' then { options with raw := true } else if c = '!' then { options with negated := true }
  else if c = ':' then { options with identity := true } else options

theorem hasFlag_setFlag {c : Char} (flag : c ∈ flagChars) (options : FieldOptions) (x : Char) :
    (options.setFlag c).hasFlag x = (options.hasFlag x || x == c) := by
  simp only [flagChars, List.mem_cons, List.not_mem_nil, or_false] at flag
  rcases flag with rfl | rfl | rfl <;>
    by_cases isRaw : x = '"' <;> by_cases isNegation : x = '!' <;> by_cases isIdentity : x = ':' <;>
    simp_all [hasFlag, setFlag]

theorem comparator_setFlag (options : FieldOptions) (c : Char) :
    (options.setFlag c).comparator = options.comparator := by
  unfold setFlag
  by_cases isRaw : c = '"' <;> by_cases isNegation : c = '!' <;> by_cases isIdentity : c = ':' <;>
    simp [isRaw, isNegation, isIdentity]

theorem hasFlag_foldl_setFlag {flags : List Char} (known : ∀ c ∈ flags, c ∈ flagChars)
    (options : FieldOptions) (x : Char) :
    (flags.foldl setFlag options).hasFlag x = (options.hasFlag x || flags.contains x) := by
  induction flags generalizing options with
  | nil => simp
  | cons c flags inductionHypothesis =>
    obtain ⟨first, others⟩ := List.forall_mem_cons.mp known
    rw [List.foldl_cons, inductionHypothesis others, hasFlag_setFlag first, List.contains_cons,
      Bool.or_assoc]

theorem comparator_foldl_setFlag (flags : List Char) (options : FieldOptions) :
    (flags.foldl setFlag options).comparator = options.comparator := by
  induction flags generalizing options with
  | nil => rfl
  | cons c flags inductionHypothesis =>
    rw [List.foldl_cons, inductionHypothesis, comparator_setFlag]

theorem ext_of_hasFlag {options options' : FieldOptions}
    (flags : ∀ c ∈ flagChars, options.hasFlag c = options'.hasFlag c)
    (comparator : options.comparator = options'.comparator) : options = options' := by
  obtain ⟨raw, negated, identity, _⟩ := options
  obtain ⟨raw', negated', identity', _⟩ := options'
  obtain rfl : raw = raw' := flags '"' (by decide)
  obtain rfl : negated = negated' := flags '!' (by decide)
  obtain rfl : identity = identity' := flags ':' (by decide)
  exact congrArg _ comparator

/-- The options that some flags stand for. -/
def ofFlags (flags : List Char) : FieldOptions where
  raw := flags.contains '"'
  negated := flags.contains '!'
  identity := flags.contains ':'

theorem foldl_setFlag_none {flags : List Char} (known : ∀ c ∈ flags, c ∈ flagChars) :
    flags.foldl setFlag none = ofFlags flags := by
  refine ext_of_hasFlag ?_ (comparator_foldl_setFlag flags none)
  intro c isFlag
  rw [hasFlag_foldl_setFlag known]
  simp only [flagChars, List.mem_cons, List.not_mem_nil, or_false] at isFlag
  rcases isFlag with rfl | rfl | rfl <;> simp [hasFlag, ofFlags, none]

end FieldOptions

namespace IndicatedField

/-! ## Flags -/

/-- Whether a list of characters starts with a flag. -/
def startsFlag (cs : List Char) : Bool := cs.head?.any flagChars.contains

theorem takeFlags_cons (options : FieldOptions) (c : Char) (cs : List Char) :
    takeFlags options (c :: cs) =
      if c ∈ flagChars then
        if options.hasFlag c then .error .repeatedFlag else takeFlags (options.setFlag c) cs
      else .ok (options, c :: cs) := by
  by_cases isRaw : c = '"'
  · subst isRaw
    rfl
  by_cases isNegation : c = '!'
  · subst isNegation
    rfl
  by_cases isIdentity : c = ':'
  · subst isIdentity
    rfl
  rw [if_neg (by simp [flagChars, isRaw, isNegation, isIdentity]), takeFlags] <;> simp_all

theorem takeFlags_of_not_startsFlag {cs : List Char} (stops : startsFlag cs = false)
    (options : FieldOptions) : takeFlags options cs = .ok (options, cs) := by
  cases cs with
  | nil => rfl
  | cons c cs =>
    rw [takeFlags_cons, if_neg]
    simpa [startsFlag] using stops

/-- The reader takes a run of flags none of which it has seen before, and stops behind it. -/
theorem takeFlags_eq_ok_iff {options flagged : FieldOptions} {cs rest : List Char} :
    takeFlags options cs = .ok (flagged, rest) ↔
      ∃ flags, cs = flags ++ rest ∧ (∀ c ∈ flags, c ∈ flagChars ∧ options.hasFlag c = false) ∧
        flags.Nodup ∧ startsFlag rest = false ∧ flagged = flags.foldl FieldOptions.setFlag options := by
  constructor
  · intro taken
    induction cs generalizing options with
    | nil =>
      cases taken
      exact ⟨[], rfl, by simp, .nil, rfl, rfl⟩
    | cons c cs inductionHypothesis =>
      rw [takeFlags_cons] at taken
      split at taken
      · rename_i flag
        split at taken
        · cases taken
        · rename_i unset
          obtain ⟨flags, rfl, fresh, distinct, stops, rfl⟩ := inductionHypothesis taken
          simp only [FieldOptions.hasFlag_setFlag flag, Bool.or_eq_false_iff, beq_eq_false_iff_ne] at fresh
          refine ⟨c :: flags, rfl, ?_, ?_, stops, rfl⟩
          · intro x member
            rcases List.mem_cons.mp member with rfl | later
            · exact ⟨flag, Bool.not_eq_true _ ▸ unset⟩
            · exact ⟨(fresh x later).1, (fresh x later).2.1⟩
          · -- a flag that is seen again would have been refused
            rw [List.nodup_cons]
            exact ⟨fun again => (fresh c again).2.2 rfl, distinct⟩
      · rename_i plain
        cases taken
        exact ⟨[], rfl, by simp, .nil, by simpa [startsFlag] using plain, rfl⟩
  · rintro ⟨flags, rfl, fresh, distinct, stops, rfl⟩
    induction flags generalizing options with
    | nil => exact takeFlags_of_not_startsFlag stops options
    | cons c flags inductionHypothesis =>
      rw [List.forall_mem_cons] at fresh
      obtain ⟨⟨flag, unset⟩, others⟩ := fresh
      rw [List.nodup_cons] at distinct
      obtain ⟨notAgain, distinct⟩ := distinct
      rw [List.cons_append, takeFlags_cons, if_pos flag, if_neg (by simp [unset]), List.foldl_cons]
      refine inductionHypothesis ?_ distinct
      intro x member
      obtain ⟨known, unset⟩ := others x member
      have other : x ≠ c := by
        rintro rfl
        exact notAgain member
      exact ⟨known, by simp [FieldOptions.hasFlag_setFlag flag, unset, other]⟩

/-! ## The grammar -/

/-- A field as it is written: the flags, the comparator between its question marks, and the name. -/
structure Spelling where
  flags : List Char
  comparator : Option (List Char)
  name : List Char
  deriving DecidableEq

namespace Spelling

def comparatorText : Option (List Char) → List Char
  | none => []
  | some c => '?' :: (c ++ ['?'])

def text (s : Spelling) : List Char := s.flags ++ (comparatorText s.comparator ++ s.name)

/-- What may be written. -/
structure IsProper (s : Spelling) : Prop where
  known : ∀ c ∈ s.flags, c ∈ flagChars
  distinct : s.flags.Nodup
  compatible : ¬('"' ∈ s.flags ∧ ':' ∈ s.flags)
  comparator : ∀ c, s.comparator = some c → '?' ∉ c ∧ c.all Text.isBlankChar = false
  named : s.name ≠ []
  bare : s.comparator = none → ∀ c, s.name.head? = some c → c ∉ '?' :: flagChars

/-- What is meant by it. -/
def indicated (s : Spelling) : IndicatedField where
  name := String.ofList s.name
  options :=
    { FieldOptions.ofFlags s.flags with
      comparator := s.comparator.map fun c => String.ofList (Text.trimChars c) }

variable {s t : Spelling}

theorem IsProper.stops (proper : s.IsProper) :
    startsFlag (comparatorText s.comparator ++ s.name) = false := by
  cases given : s.comparator with
  | some c => rfl
  | none =>
    cases named : s.name with
    | nil => exact absurd named proper.named
    | cons c name =>
      have plain := proper.bare given c (by simp [named])
      rw [List.mem_cons, not_or] at plain
      simpa [comparatorText, startsFlag] using plain.2

theorem IsProper.flags_eq (proper : s.IsProper) : s.flags = s.text.takeWhile flagChars.contains := by
  have known : ∀ c ∈ s.flags, flagChars.contains c = true := by simpa using proper.known
  rw [text, List.takeWhile_append_of_pos known]
  have stops := proper.stops
  generalize comparatorText s.comparator ++ s.name = rest at stops ⊢
  cases rest with
  | nil => simp
  | cons c rest =>
    rw [List.takeWhile_cons_of_neg (by simpa [startsFlag] using stops), List.append_nil]

/-- The comparator and the name behind the flags: a question mark starts a comparator, and the next
one ends it. -/
def splitComparator : List Char → Option (List Char) × List Char
  | '?' :: rest => (some (rest.span (· != '?')).1, (rest.span (· != '?')).2.tail)
  | rest => (none, rest)

theorem span_unmarked {c : List Char} (unmarked : '?' ∉ c) (rest : List Char)
    (ends : ∀ x, rest.head? = some x → x = '?') : (c ++ rest).span (· != '?') = (c, rest) := by
  have kept : ∀ x ∈ c, (x != '?') = true := by
    intro x member
    rw [bne_iff_ne]
    rintro rfl
    exact unmarked member
  rw [List.span_eq_takeWhile_dropWhile, List.takeWhile_append_of_pos kept,
    List.dropWhile_append_of_pos kept]
  cases rest with
  | nil => simp
  | cons x rest =>
    obtain rfl := ends x rfl
    simp

theorem splitComparator_some {c : List Char} (unmarked : '?' ∉ c) (name : List Char) :
    splitComparator (comparatorText (some c) ++ name) = (some c, name) := by
  have spanned := span_unmarked unmarked ('?' :: name) (by simp)
  have text : comparatorText (some c) ++ name = '?' :: (c ++ '?' :: name) := by simp [comparatorText]
  simp only [text, splitComparator, spanned, List.tail_cons]

theorem splitComparator_none {name : List Char} (plain : name.head? ≠ some '?') :
    splitComparator name = (none, name) := by
  unfold splitComparator
  split
  · exact absurd rfl plain
  · rfl

theorem IsProper.split_eq (proper : s.IsProper) :
    splitComparator (comparatorText s.comparator ++ s.name) = (s.comparator, s.name) := by
  cases given : s.comparator with
  | some c => exact splitComparator_some (proper.comparator c given).1 s.name
  | none =>
    refine splitComparator_none ?_
    intro marked
    exact proper.bare given '?' marked List.mem_cons_self

theorem eq_of_text_eq (proper : s.IsProper) (proper' : t.IsProper) (same : s.text = t.text) : s = t := by
  have flags : s.flags = t.flags := by rw [proper.flags_eq, proper'.flags_eq, same]
  have rest : comparatorText s.comparator ++ s.name = comparatorText t.comparator ++ t.name := by
    rw [text, text, flags] at same
    exact List.append_cancel_left same
  have both : (s.comparator, s.name) = (t.comparator, t.name) := by
    rw [← proper.split_eq, rest, proper'.split_eq]
  obtain ⟨comparator, name⟩ := Prod.mk.inj both
  obtain ⟨_, _, _⟩ := s
  obtain ⟨_, _, _⟩ := t
  simp_all

end Spelling

/-! ## Comparators -/

theorem takeComparator_of_plain {cs : List Char} (plain : cs.head? ≠ some '?') (options : FieldOptions) :
    takeComparator options cs = .ok (options, cs) := by
  unfold takeComparator
  split
  · exact absurd rfl plain
  · rfl

theorem takeComparator_of_unclosed {rest : List Char} (unmarked : '?' ∉ rest) (options : FieldOptions) :
    takeComparator options ('?' :: rest) = .error .openComparator := by
  have spanned := Spelling.span_unmarked unmarked [] (by simp)
  rw [List.append_nil] at spanned
  simp only [takeComparator, spanned]

theorem takeComparator_of_spelled {c : List Char} (unmarked : '?' ∉ c) (name : List Char)
    (options : FieldOptions) :
    takeComparator options (Spelling.comparatorText (some c) ++ name) =
      if c.all Text.isBlankChar then .error .blankComparator
      else .ok ({ options with comparator := some (String.ofList (Text.trimChars c)) }, name) := by
  have spanned := Spelling.span_unmarked unmarked ('?' :: name) (by simp)
  have text : Spelling.comparatorText (some c) ++ name = '?' :: (c ++ '?' :: name) := by
    simp [Spelling.comparatorText]
  simp only [text, takeComparator, spanned]

/-- The reader takes a comparator exactly where one is spelled. -/
theorem takeComparator_eq_ok_iff {flagged options : FieldOptions} {cs name : List Char} :
    takeComparator flagged cs = .ok (options, name) ↔
      ∃ comparator, cs = Spelling.comparatorText comparator ++ name ∧
        (∀ c, comparator = some c → '?' ∉ c ∧ c.all Text.isBlankChar = false) ∧
        (comparator = none → name.head? ≠ some '?') ∧
        options = { flagged with
          comparator := (comparator.map fun c => String.ofList (Text.trimChars c)).or flagged.comparator } := by
  constructor
  · intro taken
    by_cases marked : cs.head? = some '?'
    · obtain ⟨rest, rfl⟩ := List.head?_eq_some_iff.mp marked
      by_cases closed : '?' ∈ rest
      · obtain ⟨c, behind, rfl, unmarked⟩ := List.eq_append_cons_of_mem closed
        have spelled := takeComparator_of_spelled unmarked behind flagged
        have text : Spelling.comparatorText (some c) ++ behind = '?' :: (c ++ '?' :: behind) := by
          simp [Spelling.comparatorText]
        rw [text, taken] at spelled
        split at spelled
        · cases spelled
        · rename_i visible
          cases spelled
          refine ⟨some c, text.symm, ?_, by simp, rfl⟩
          rintro _ ⟨⟩
          exact ⟨unmarked, Bool.not_eq_true _ ▸ visible⟩
      · rw [takeComparator_of_unclosed closed] at taken
        cases taken
    · rw [takeComparator_of_plain marked] at taken
      cases taken
      exact ⟨none, rfl, by simp, fun _ => marked, rfl⟩
  · rintro ⟨comparator, rfl, proper, bare, rfl⟩
    cases comparator with
    | none => exact takeComparator_of_plain (bare rfl) flagged
    | some c =>
      obtain ⟨unmarked, visible⟩ := proper c rfl
      rw [takeComparator_of_spelled unmarked, if_neg (by simp [visible])]
      rfl

/-! ## The reader -/

theorem readChars_eq_ok_iff {cs : List Char} {indicated : IndicatedField} :
    readChars cs = .ok indicated ↔ ∃ s : Spelling, s.IsProper ∧ s.text = cs ∧ s.indicated = indicated := by
  constructor
  · intro given
    obtain ⟨⟨flagged, rest⟩, taken, given⟩ := exists_of_bind_eq_ok given
    obtain ⟨⟨options, name⟩, compared, given⟩ := exists_of_bind_eq_ok given
    obtain ⟨flags, rfl, fresh, distinct, stops, rfl⟩ := takeFlags_eq_ok_iff.mp taken
    obtain ⟨comparator, rfl, proper, unmarked, rfl⟩ := takeComparator_eq_ok_iff.mp compared
    have known : ∀ c ∈ flags, c ∈ flagChars := fun c member => (fresh c member).1
    simp only [FieldOptions.foldl_setFlag_none known] at given
    split at given
    · cases given
    · rename_i named
      split at given
      · cases given
      · rename_i compatible
        cases given
        refine ⟨⟨flags, comparator, name⟩, ⟨known, distinct, ?_, proper, ?_, ?_⟩, rfl, ?_⟩
        · simpa [FieldOptions.ofFlags] using compatible
        · simpa using named
        · intro uncompared c first
          obtain rfl : comparator = none := uncompared
          have plain : c ∉ flagChars := by simpa [startsFlag, first, Spelling.comparatorText] using stops
          rw [List.mem_cons, not_or]
          refine ⟨?_, plain⟩
          rintro rfl
          exact unmarked rfl first
        · simp [Spelling.indicated, FieldOptions.ofFlags]
  · rintro ⟨s, proper, rfl, rfl⟩
    have taken : takeFlags FieldOptions.none s.text =
        .ok (FieldOptions.ofFlags s.flags, Spelling.comparatorText s.comparator ++ s.name) := by
      rw [← FieldOptions.foldl_setFlag_none proper.known]
      refine takeFlags_eq_ok_iff.mpr ⟨s.flags, rfl, ?_, proper.distinct, proper.stops, rfl⟩
      intro c member
      refine ⟨proper.known c member, ?_⟩
      simp [FieldOptions.hasFlag, FieldOptions.none]
    have compared : takeComparator (FieldOptions.ofFlags s.flags)
        (Spelling.comparatorText s.comparator ++ s.name) = .ok (s.indicated.options, s.name) := by
      refine takeComparator_eq_ok_iff.mpr ⟨s.comparator, rfl, proper.comparator, ?_, ?_⟩
      · intro uncompared marked
        exact proper.bare uncompared '?' marked List.mem_cons_self
      · simp [Spelling.indicated, FieldOptions.ofFlags]
    have named := proper.named
    have compatible := proper.compatible
    simp only [readChars, taken, compared, bind, Except.bind]
    rw [if_neg (by simpa using named), if_neg (by simpa [Spelling.indicated, FieldOptions.ofFlags] using compatible)]
    rfl

/-- A text that spells a field, and how it does. -/
def Spells (field : String) (s : Spelling) : Prop := s.IsProper ∧ s.text = field.toList

theorem read_eq_ok_iff {field : String} {indicated : IndicatedField} :
    read field = .ok indicated ↔ ∃ s, Spells field s ∧ s.indicated = indicated := by
  have chars : read field = .ok indicated ↔ readChars field.toList = .ok indicated := by
    unfold read
    cases readChars field.toList <;> simp
  rw [chars, readChars_eq_ok_iff]
  simp only [Spells, and_assoc]

/-- Whatever is refused is named by the error. -/
theorem read_eq_error_iff {field : String} :
    (∃ fault, read field = .error (.invalidIndicator field fault)) ↔
      ∀ indicated, read field ≠ .ok indicated := by
  unfold read
  cases readChars field.toList <;> simp

/-- **Fields are read as they are spelled.**  A field is read exactly when it has a spelling, and as
what is meant by it.  It has one spelling at most.  A field that has none is refused with an error
that names it. -/
theorem read_eq_spelling (field : String) :
    (∀ indicated, read field = .ok indicated ↔ ∃ s, Spells field s ∧ s.indicated = indicated) ∧
      (∀ s t, Spells field s → Spells field t → s = t) ∧
      ((∃ fault, read field = .error (.invalidIndicator field fault)) ↔ ¬∃ s, Spells field s) := by
  refine ⟨fun _ => read_eq_ok_iff, ?_, ?_⟩
  · rintro s t ⟨proper, text⟩ ⟨proper', text'⟩
    exact Spelling.eq_of_text_eq proper proper' (text.trans text'.symm)
  · rw [read_eq_error_iff]
    constructor
    · rintro refused ⟨s, spells⟩
      exact refused s.indicated (read_eq_ok_iff.mpr ⟨s, spells, rfl⟩)
    · intro unspelled indicated known
      obtain ⟨s, spells, -⟩ := read_eq_ok_iff.mp known
      exact unspelled ⟨s, spells⟩

/-- A name behind a comparator may look like indicators; without the comparator it is refused. -/
theorem read_eq_spelling_compared :
    let spelling : Spelling := ⟨['!', ':'], some " >= ".toList, "\"a?b".toList⟩
    Spells "!:? >= ?\"a?b" spelling ∧ (∀ s, Spells "!:? >= ?\"a?b" s → s = spelling) ∧
      read "!:? >= ?\"a?b" = .ok ⟨"\"a?b", { negated := true, identity := true, comparator := some ">=" }⟩ ∧
      ¬∃ s, Spells "!:\"a?b" s := by
  intro spelling
  have proper : spelling.IsProper := by
    refine ⟨by simp [spelling, flagChars], by decide, by decide, ?_, by decide, nofun⟩
    rintro _ ⟨⟩
    decide
  have spells : Spells "!:? >= ?\"a?b" spelling := ⟨proper, by decide⟩
  obtain ⟨reads, single, -⟩ := read_eq_spelling "!:? >= ?\"a?b"
  obtain ⟨-, -, refused⟩ := read_eq_spelling "!:\"a?b"
  exact ⟨spells, fun s other => single s spelling other spells,
    (reads _).mpr ⟨spelling, spells, by decide⟩, refused.mp ⟨.rawIdentity, by decide⟩⟩

end IndicatedField

end SqlAssembly
