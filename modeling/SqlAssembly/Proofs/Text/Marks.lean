import SqlAssembly.Identifier
import SqlAssembly.Proofs.Fragment.Scanner
import SqlAssembly.Proofs.Text.Case

/-! # Marks of changed texts

Trimming, cutting into words and changing the case of a text leave its marks alone,
because no blank and no letter is a mark.  What a scan says of a text given by a caller
it therefore says of the trimmed text, of the words together, and of the upper case.
-/

namespace SqlAssembly

theorem isMark_iff (c : Char) :
    isMark c = true ↔ c = '\'' ∨ c = '"' ∨ c = '\x60' ∨ c = '?' := by
  simp [isMark, isQuoteChar, or_assoc]

/-- No character of a class that leaves out the four marks is a mark. -/
theorem isMark_eq_false {p : Char → Bool} {c : Char} (inClass : p c = true)
    (leftOut : ['\'', '"', '\x60', '?'].any p = false) : isMark c = false := by
  rw [← Bool.not_eq_true, isMark_iff]
  intro mark
  have member : c ∈ ['\'', '"', '\x60', '?'] := by simpa using mark
  exact List.any_eq_false.mp leftOut c member inClass

namespace Text

theorem marks_eq_nil {s : String} (unmarked : ∀ c ∈ s.toList, isMark c = false) : marks s = [] := by
  simpa [marks] using unmarked

@[simp] theorem marks_ofNat (n : Nat) : marks (ofNat n) = [] := by
  apply marks_eq_nil
  intro c member
  rw [ofNat, String.toList_ofList] at member
  exact isMark_eq_false (Nat.isDigit_of_mem_toDigits (by omega) (by omega) member) rfl

/-! ## Trimming -/

theorem filter_isMark_dropWhile_isBlankChar (cs : List Char) :
    (cs.dropWhile isBlankChar).filter isMark = cs.filter isMark := by
  induction cs with
  | nil => rfl
  | cons c cs inductionHypothesis =>
    rw [List.dropWhile_cons]
    split
    · rename_i blank
      rw [inductionHypothesis, List.filter_cons_of_neg]
      simp [isMark_eq_false blank rfl]
    · rfl

@[simp] theorem filter_isMark_trimChars (cs : List Char) :
    (trimChars cs).filter isMark = cs.filter isMark := by
  rw [trimChars, List.filter_reverse, filter_isMark_dropWhile_isBlankChar, ← List.filter_reverse,
    List.reverse_reverse, filter_isMark_dropWhile_isBlankChar]

@[simp] theorem marks_trim (s : String) : marks (trim s) = marks s := by
  rw [trim, marks_ofList, filter_isMark_trimChars, marks]

/-! ## Words -/

theorem flatMap_filter_isMark_splitOnP (cs : List Char) :
    (cs.splitOnP isBlankChar).flatMap (List.filter isMark) = cs.filter isMark := by
  induction cs with
  | nil => rfl
  | cons c cs inductionHypothesis =>
    -- a blank starts a new piece and is no mark; any other character joins the first piece
    rw [List.splitOnP_cons_eq_if_modifyHead]
    split
    · rename_i blank
      rw [List.flatMap_cons, inductionHypothesis, List.filter_cons_of_neg]
      · rfl
      · simp [isMark_eq_false blank rfl]
    · obtain ⟨piece, pieces, cut⟩ :=
        List.exists_cons_of_ne_nil (List.splitOnP_ne_nil isBlankChar cs)
      rw [cut, List.flatMap_cons] at inductionHypothesis
      rw [cut, List.modifyHead_cons, List.flatMap_cons, List.filter_cons, List.filter_cons,
        ← inductionHypothesis]
      split <;> rfl

/-- The words of a text have its marks. -/
theorem flatMap_marks_words (s : String) : (words s).flatMap marks = marks s := by
  have kept : ∀ pieces : List (List Char),
      (pieces.filter (!·.isEmpty)).flatMap (List.filter isMark) =
        pieces.flatMap (List.filter isMark) := by
    intro pieces
    induction pieces with
    | nil => rfl
    | cons piece pieces inductionHypothesis =>
      cases piece with
      | nil => simpa using inductionHypothesis
      | cons c cs => simp [inductionHypothesis]
  rw [words, List.flatMap_map]
  simp only [marks_ofList]
  rw [kept, flatMap_filter_isMark_splitOnP, marks]

/-! ## Pieces -/

/-- The pieces of a text with the character between them again are the text. -/
theorem intercalate_splitAtChar (separator : Char) (s : String) :
    (String.singleton separator).intercalate (splitAtChar separator s) = s := by
  apply String.toList_injective
  rw [String.toList_intercalate, splitAtChar, List.map_map]
  have plain : String.toList ∘ String.ofList = id := by funext cs; simp
  rw [plain, List.map_id, ← List.splitOn_eq_splitOnP, String.toList_singleton,
    List.intercalate_splitOn]

/-! ## Case -/

/-- Neither a small letter nor the capital that it becomes is a mark. -/
theorem isMark_toUpper (c : Char) : isMark c.toUpper = isMark c := by
  have code (d : Char) : isMark d = true ↔ d.toNat = 39 ∨ d.toNat = 34 ∨ d.toNat = 96 ∨ d.toNat = 63 := by
    rw [isMark_iff]
    simp only [← Char.toNat_inj]
    rfl
  rw [Bool.eq_iff_iff, code, code, toNat_toUpper]
  split <;> omega

theorem toUpper_of_isMark {c : Char} (mark : isMark c = true) : c.toUpper = c := by
  rcases (isMark_iff c).mp mark with rfl | rfl | rfl | rfl <;> rfl

theorem toLower_of_isMark {c : Char} (mark : isMark c = true) : c.toLower = c := by
  rcases (isMark_iff c).mp mark with rfl | rfl | rfl | rfl <;> rfl

@[simp] theorem marks_asciiUpper (s : String) : marks (asciiUpper s) = marks s := by
  rw [asciiUpper, marks_ofList, marks]
  induction s.toList with
  | nil => rfl
  | cons c cs inductionHypothesis =>
    rw [List.map_cons, List.filter_cons, List.filter_cons, isMark_toUpper, inductionHypothesis]
    split
    · rename_i mark
      rw [toUpper_of_isMark mark]
    · rfl

end Text

end SqlAssembly
