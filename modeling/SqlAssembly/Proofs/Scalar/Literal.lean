import SqlAssembly.Scalar
import SqlAssembly.Text.Blank

/-! # Literals are visible

No literal is empty or blank: each has a letter, a digit, a point or a quote.  A literal
in place of a placeholder therefore leaves a text as blank as it was.
-/

namespace SqlAssembly

namespace Text

theorem isBlank_eq_false_of_mem {s : String} {c : Char} (member : c ∈ s.toList)
    (visible : isBlankChar c = false) : isBlank s = false := by
  rw [isBlank, List.all_eq_false]
  exact ⟨c, member, by simp [visible]⟩

theorem isBlankChar_eq_false_of_isDigit {c : Char} (digit : c.isDigit = true) :
    isBlankChar c = false := by
  have bounds : 48 ≤ c.toNat ∧ c.toNat ≤ 57 := by
    simpa [Char.isDigit, UInt32.le_iff_toNat_le] using digit
  simp only [isBlankChar, inRanges, blankRanges, List.any_cons, List.any_nil]
  simp only [Bool.or_false, Bool.or_eq_false_iff, Bool.and_eq_false_iff, decide_eq_false_iff_not]
  omega

/-- The digits of a number start with a digit, which is visible. -/
theorem exists_visible_digit (n : Nat) :
    ∃ c ∈ Nat.toDigits 10 n, isBlankChar c = false := by
  obtain ⟨c, rest, digits⟩ := List.exists_cons_of_ne_nil (Nat.toDigits_ne_nil (b := 10) (n := n))
  have digit : c.isDigit = true :=
    Nat.isDigit_of_mem_toDigits (by omega) (by omega) (digits ▸ List.mem_cons_self)
  exact ⟨c, by simp [digits], isBlankChar_eq_false_of_isDigit digit⟩

end Text

namespace Double

/-- Wherever the point of a number stands, one of its digits or the point itself is visible. -/
theorem Layout.exists_visible_decimal (d : Decimal) :
    ∃ c ∈ Layout.literal.decimal d, Text.isBlankChar c = false := by
  obtain ⟨digit, member, visible⟩ := Text.exists_visible_digit d.digits
  have point : Text.isBlankChar '.' = false := by decide
  simp only [decimal, literal, positional]
  split
  · exact ⟨digit, by simp [member], visible⟩
  · split
    · exact ⟨'.', by simp, point⟩
    · exact ⟨'.', by simp, point⟩

theorem isBlank_render (x : Double) : Text.isBlank (Layout.literal.render x) = false := by
  unfold Layout.render
  split
  · decide
  · decide
  · decide
  · rename_i negative significand exponent
    obtain ⟨c, member, visible⟩ := Layout.exists_visible_decimal
      (shortest Layout.literal.tie significand exponent)
    refine Text.isBlank_eq_false_of_mem (c := c) ?_ visible
    simp only [String.toList_ofList]
    split
    · exact List.mem_cons_of_mem _ member
    · exact member

end Double

/-- A literal is never blank. -/
theorem Scalar.isBlank_literal (s : Scalar) : Text.isBlank s.literal = false := by
  cases s with
  | null => decide
  | bool b => cases b <;> decide
  | int n =>
    cases n with
    | ofNat n =>
      obtain ⟨c, member, visible⟩ := Text.exists_visible_digit n
      exact Text.isBlank_eq_false_of_mem (by simpa [literal, Text.ofInt, Text.ofNat]) visible
    | negSucc n => exact Text.isBlank_eq_false_of_mem (c := '-') (by simp [literal, Text.ofInt]) (by decide)
  | float x => exact Double.isBlank_render x
  | text s => exact Text.isBlank_eq_false_of_mem (c := '\'') (by simp [literal]) (by decide)
  | blob bytes => exact Text.isBlank_eq_false_of_mem (c := 'X') (by simp [literal]) (by decide)

end SqlAssembly
