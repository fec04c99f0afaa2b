import SqlAssembly.Proofs.Condition.Reading

/-! # Conditions with ANDs between them

AND binds tighter than OR, so an AND next to a text cuts off an OR of the text that stands
outside all parentheses.  Without such an OR, texts with ANDs between them say that all of
them hold; with one, the whole may hold although one of the texts does not.

* `read_withAnds_iff` — when pieces with ANDs between them say that all of them hold.
* `reads_conjunction` — texts that no AND cuts say together that all of them hold.
* `IsConjunction` — a text that says that all of some texts hold.
* `isConjunction_iff` — when texts with ANDs between them say that all of them hold.
-/

namespace SqlAssembly.Condition

/-! ## Pieces with ANDs between them -/

/-- Pieces with an AND between any two lists of them. -/
abbrev withAnds (pss : List (List Piece)) : List Piece :=
  [.token (.connective .and)].intercalate pss

theorem withAnds_cons (ps : List Piece) {pss : List (List Piece)} (more : pss ≠ []) :
    withAnds (ps :: pss) = ps ++ .token (.connective .and) :: withAnds pss := by
  rw [withAnds, List.intercalate_cons_of_ne_nil more, List.append_assoc]
  rfl

theorem hasOr_withAnds (pss : List (List Piece)) : hasOr (withAnds pss) = pss.any hasOr := by
  induction pss with
  | nil => rfl
  | cons ps pss inductionHypothesis =>
    by_cases more : pss = []
    · simp [more]
    · rw [withAnds_cons ps more, hasOr_and, inductionHypothesis, List.any_cons]

theorem read_withAnds {pss : List (List Piece)} (given : pss ≠ []) (none : pss.any hasOr = false) :
    read (withAnds pss) = .joinAll .and (pss.map read) := by
  induction pss with
  | nil => contradiction
  | cons ps pss inductionHypothesis =>
    by_cases more : pss = []
    · simp [more]
    · rw [List.any_cons, Bool.or_eq_false_iff] at none
      obtain ⟨here, later⟩ := none
      rw [withAnds_cons ps more, read_and here (by rw [hasOr_withAnds, later]),
        inductionHypothesis more later]
      rfl

theorem hasOr_eq_true_iff {ps : List Piece} :
    hasOr ps = true ↔
      ∃ before after, ps = before ++ .token (.connective .or) :: after ∧ hasOr before = false := by
  constructor
  · intro present
    have found : (ps.find? (Piece.isConnective .or)).isSome = true := by
      rwa [List.find?_isSome, ← List.any_eq_true]
    obtain ⟨piece, found⟩ := Option.isSome_iff_exists.mp found
    obtain ⟨isOr, before, after, rfl, none⟩ := List.find?_eq_some_iff_append.mp found
    have same : piece = .token (.connective .or) := by
      cases piece with
      | group pieces => cases isOr
      | token t =>
        cases t with
        | connective c => simpa [Piece.isConnective, eq_comm] using isOr
        | _ => cases isOr
    refine ⟨before, after, by rw [same], ?_⟩
    rw [hasOr, List.any_eq_false]
    simpa using none
  · rintro ⟨before, after, rfl, -⟩
    exact hasOr_or before after

/-- Where an OR stands in one of several lists with ANDs between them, the whole may hold although
not all of the lists do. -/
theorem exists_holds_of_hasOr {ps : List Piece} {pss : List (List Piece)} (more : pss ≠ [])
    (present : (ps :: pss).any hasOr = true) :
    ∃ truth, (read (withAnds (ps :: pss))).holds truth = true ∧
      (Meaning.joinAll .and ((ps :: pss).map read)).holds truth = false := by
  rw [withAnds_cons ps more, List.map_cons, Meaning.joinAll_cons]
  by_cases here : hasOr ps = true
  · -- the alternative in front of the OR is enough for the whole
    obtain ⟨before, after, rfl, -⟩ := hasOr_eq_true_iff.mp here
    obtain ⟨first, fulfilled⟩ := (isFree_read before).fulfilled
    have freeRest : (Meaning.joinAll .and (pss.map read)).IsFree :=
      Meaning.isFree_joinAll (by simpa using more) (by simp [isFree_read])
    obtain ⟨rest, unfulfilled⟩ := freeRest.unfulfilled
    refine ⟨.glue (read (before ++ .token (.connective .or) :: after)).tests first rest, ?_, ?_⟩
    · have alternative : (read before).holds
          (.glue (read (before ++ .token (.connective .or) :: after)).tests first rest) = true := by
        rw [← fulfilled]
        refine (read before).holds_congr fun i lt => Assignment.glue_of_lt ?_ first rest
        rw [read_or]
        exact Nat.lt_add_right _ lt
      rw [List.append_assoc, List.cons_append, read_or]
      simp [Meaning.join, Connective.combine, alternative]
    · rw [Meaning.holds_join_glue, unfulfilled]
      simp [Connective.combine]
  · -- so is the alternative behind an OR of the later lists
    have none : hasOr ps = false := by simpa using here
    have later : hasOr (withAnds pss) = true := by
      rw [hasOr_withAnds]
      simpa [none] using present
    obtain ⟨before, after, split, clean⟩ := hasOr_eq_true_iff.mp later
    obtain ⟨first, unfulfilled⟩ := (isFree_read ps).unfulfilled
    obtain ⟨rest, fulfilled⟩ := (isFree_read after).fulfilled
    have front : read (ps ++ .token (.connective .and) :: before) =
        (read ps).join .and (read before) := read_and none clean
    refine ⟨.glue (read (ps ++ .token (.connective .and) :: before)).tests first rest, ?_, ?_⟩
    · rw [split, ← List.cons_append, ← List.append_assoc, read_or, Meaning.holds_join_glue, fulfilled]
      simp [Connective.combine]
    · have missing : (read ps).holds
          (.glue (read (ps ++ .token (.connective .and) :: before)).tests first rest) = false := by
        rw [← unfulfilled]
        refine (read ps).holds_congr fun i lt => Assignment.glue_of_lt ?_ first rest
        rw [front]
        exact Nat.lt_add_right _ lt
      simp [Meaning.join, Connective.combine, missing]

/-- Lists of pieces with ANDs between them say that all of the lists hold exactly when there is one
list only, or no OR that an AND could cut off. -/
theorem read_withAnds_iff {pss : List (List Piece)} (given : pss ≠ []) :
    (∀ truth, (read (withAnds pss)).holds truth = (Meaning.joinAll .and (pss.map read)).holds truth) ↔
      pss.length ≤ 1 ∨ pss.any hasOr = false := by
  constructor
  · intro same
    cases pss with
    | nil => contradiction
    | cons ps pss =>
      by_cases more : pss = []
      · simp [more]
      · refine .inr (Bool.eq_false_iff.mpr fun present => ?_)
        obtain ⟨truth, whole, parts⟩ := exists_holds_of_hasOr more present
        rw [same truth, parts] at whole
        cases whole
  · rintro (one | none) truth
    · obtain ⟨ps, rfl⟩ := List.length_eq_one_iff.mp (Nat.le_antisymm one (List.length_pos_iff.mpr given))
      simp
    · rw [read_withAnds given none]

/-! ## Texts with ANDs between them -/

/-- Texts without ORs outside their parentheses say together that all of them hold. -/
theorem reads_conjunction {texts : List String} (nonempty : texts ≠ [])
    (tight : ∀ t ∈ texts, isReadable t = true ∧ hasTopLevelOr t = false) :
    Reads (Combinator.and.text.intercalate texts) (.joinAll .and (texts.map meaning)) false := by
  induction texts with
  | nil => contradiction
  | cons s texts inductionHypothesis =>
    rw [List.forall_mem_cons] at tight
    obtain ⟨⟨readable, none⟩, later⟩ := tight
    have first : Reads s (meaning s) false := ⟨readable, rfl, none⟩
    cases texts with
    | nil => simpa using first
    | cons t texts =>
      rw [String.intercalate_cons_cons]
      exact first.and (inductionHypothesis (by simp) later)

/-- A text that can be read and that holds exactly when all of some texts do. -/
structure IsConjunction (whole : String) (texts : List String) : Prop where
  readable : isReadable whole = true
  holds : ∀ truth, (meaning whole).holds truth =
    (Meaning.joinAll .and (texts.map meaning)).holds truth

theorem pieces?_withAnds {texts : List String} {pss : List (List Piece)}
    (given : texts.map pieces? = pss.map some) (nonempty : texts ≠ []) :
    pieces? (Combinator.and.text.intercalate texts) = some (withAnds pss) := by
  induction texts generalizing pss with
  | nil => contradiction
  | cons s texts inductionHypothesis =>
    cases pss with
    | nil => cases given
    | cons ps pss =>
      rw [List.map_cons, List.map_cons, List.cons.injEq] at given
      obtain ⟨head, rest⟩ := given
      cases texts with
      | nil =>
        obtain rfl : pss = [] := by simpa using rest.symm
        simpa using head
      | cons t texts =>
        have more : pss ≠ [] := by
          rintro rfl
          cases rest
        rw [String.intercalate_cons_cons, withAnds_cons ps more]
        exact pieces?_join head (inductionHypothesis rest (by simp)) .and

/-- **Where an AND cuts an OR off.**  Readable texts with ANDs between them are readable, and they
say that all of the texts hold exactly when there is one text only, or none has an OR outside all
parentheses. -/
theorem isConjunction_iff {texts : List String} (nonempty : texts ≠ [])
    (readable : ∀ t ∈ texts, isReadable t = true) :
    isReadable (Combinator.and.text.intercalate texts) = true ∧
      (IsConjunction (Combinator.and.text.intercalate texts) texts ↔
        texts.length ≤ 1 ∨ texts.any hasTopLevelOr = false) := by
  obtain ⟨pss, given⟩ : ∃ pss : List (List Piece), texts.map pieces? = pss.map some := by
    refine ⟨texts.map fun t => (pieces? t).getD [], ?_⟩
    rw [List.map_map]
    refine List.map_congr_left fun t member => ?_
    obtain ⟨ps, known⟩ := pieces_of_isReadable (readable t member)
    simp [known]
  have reads := reads_of_pieces (pieces?_withAnds given nonempty)
  have lengths : texts.length = pss.length := by simpa using congrArg List.length given
  have lists : pss ≠ [] := by
    rw [← List.length_pos_iff, ← lengths, List.length_pos_iff]
    exact nonempty
  have meanings : texts.map meaning = pss.map read := by
    change texts.map ((fun known => (known.map read).getD (.neutral .or)) ∘ pieces?) = _
    rw [← List.map_map, given, List.map_map]
    rfl
  have alternatives : texts.any hasTopLevelOr = pss.any hasOr := by
    change texts.any ((fun known => known.any hasOr) ∘ pieces?) = _
    rw [← List.any_map, given, List.any_map]
    rfl
  refine ⟨reads.readable, ?_⟩
  rw [lengths, alternatives, ← read_withAnds_iff lists,
    ← meanings, ← reads.meaning]
  exact ⟨fun conjunction => conjunction.holds, fun holds => ⟨reads.readable, holds⟩⟩

end SqlAssembly.Condition
