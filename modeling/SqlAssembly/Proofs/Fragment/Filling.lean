import SqlAssembly.Proofs.Fragment.Inlining
import SqlAssembly.Proofs.Identifier.Quoting
import SqlAssembly.Statement

/-! # Filling placeholders

A literal is verbatim text: what it quotes it closes again, and a question mark in it stands
between quotes.  A placeholder only occurs outside quotes, and there a scan passes over a literal
as it passes over a question mark.  So a scan stands in the same state behind a text and behind
the inlined text, and of the placeholders those that found a parameter are gone.

* `Scalar.isVerbatim_literal` — literals are closed and hold no placeholder.
* `QuoteState.after_inlineChars`, `countPlaceholders_inlineChars` — scans of an inlined text.
* `Statement.inline_fills` — what is left to fill, and inlining of joined fragments.
-/

namespace SqlAssembly

/-! ## Literals -/

namespace Text

theorem marks_ofInt (n : Int) : marks (ofInt n) = [] := by
  cases n with
  | ofNat n => exact marks_ofNat n
  | negSucc n =>
    rw [ofInt, marks_append, marks_ofNat]
    rfl

theorem isMark_eq_false_of_mem_hexByte {b : UInt8} {c : Char} (member : c ∈ hexByte b) :
    isMark c = false := by
  have digits : ∀ n < 16, isMark (Nat.digitChar n) = false := by decide
  have bound : b.toNat < 256 := b.toNat_lt
  rw [hexByte, List.mem_cons, List.mem_singleton] at member
  obtain rfl | rfl := member
  · exact digits _ (by omega)
  · exact digits _ (by omega)

end Text

namespace Double

/-- Digits with the point somewhere among them, and zeros to fill. -/
theorem Layout.isMark_eq_false_of_mem_positional {layout : Layout} {digits : List Char}
    {exponent : Int} {c : Char} (unmarked : ∀ c ∈ digits, isMark c = false)
    (member : c ∈ layout.positional digits exponent) : isMark c = false := by
  have zero : isMark '0' = false := by decide
  have point : isMark '.' = false := by decide
  have zeros {n : Nat} (member : c ∈ List.replicate n '0') : isMark c = false := by
    rw [List.eq_of_mem_replicate member, zero]
  have whole (member : c ∈ digits ++ List.replicate exponent.toNat '0') : isMark c = false :=
    (List.mem_append.mp member).elim (unmarked c) zeros
  simp only [positional] at member
  split at member
  · split at member
    · obtain front | back := List.mem_append.mp member
      · exact whole front
      · simp only [List.mem_cons, List.not_mem_nil, or_false] at back
        obtain rfl | rfl := back
        · exact point
        · exact zero
    · exact whole member
  · split at member
    · obtain front | back := List.mem_append.mp member
      · exact unmarked c (List.mem_of_mem_take front)
      · obtain rfl | behind := List.mem_cons.mp back
        · exact point
        · exact unmarked c (List.mem_of_mem_drop behind)
    · rw [List.cons_append, List.mem_cons, List.cons_append, List.mem_cons, List.mem_append] at member
      obtain rfl | rfl | filled | digit := member
      · exact zero
      · exact point
      · exact zeros filled
      · exact unmarked c digit

theorem marks_render (x : Double) : Text.marks (Layout.literal.render x) = [] := by
  unfold Layout.render
  split
  · rfl
  · rfl
  · rfl
  · rename_i negative significand exponent
    have digits : ∀ c ∈ Layout.literal.decimal (shortest Layout.literal.tie significand exponent),
        isMark c = false := by
      intro c member
      refine Layout.isMark_eq_false_of_mem_positional (fun c digit => ?_) member
      exact isMark_eq_false (Nat.isDigit_of_mem_toDigits (by omega) (by omega) digit) rfl
    apply Text.marks_eq_nil
    intro c member
    rw [String.toList_ofList] at member
    split at member
    · obtain rfl | digit := List.mem_cons.mp member
      · decide
      · exact digits c digit
    · exact digits c member

end Double

namespace Scalar

theorem marks_upperHex (bytes : List UInt8) : Text.marks (upperHex bytes) = [] := by
  apply Text.marks_eq_nil
  intro c member
  rw [upperHex, String.toList_ofList] at member
  obtain ⟨digit, present, rfl⟩ := List.mem_map.mp member
  obtain ⟨b, -, digit⟩ := List.mem_flatMap.mp present
  rw [Text.isMark_toUpper]
  exact Text.isMark_eq_false_of_mem_hexByte digit

/-- A literal may stand wherever a placeholder does: it is closed and holds no placeholder, whatever
its text holds. -/
theorem isVerbatim_literal (s : Scalar) : IsVerbatim s.literal := by
  cases s with
  | null => exact .of_marks_eq_nil rfl
  | bool b => cases b <;> exact .of_marks_eq_nil rfl
  | int n => exact .of_marks_eq_nil (Text.marks_ofInt n)
  | float x => exact .of_marks_eq_nil (Double.marks_render x)
  | text s =>
    have quote : isQuoteChar '\'' = true := by decide
    exact isVerbatim_quoted quote s
  | blob bytes =>
    -- the digits are no marks, so the literal is scanned like the empty one
    have marks : Text.marks ("X'" ++ upperHex bytes ++ "'") = Text.marks "''" := by
      rw [Text.marks_append, Text.marks_append, marks_upperHex]
      rfl
    exact (isVerbatim_congr marks).mpr (by decide)

end Scalar

/-! ## Scans of an inlined text -/

/-- A literal that takes the place of a placeholder leaves a scan where the question mark does. -/
theorem QuoteState.after_literal {state : QuoteState} {c : Char}
    (placeholder : isPlaceholder state c = true) (p : Scalar) :
    state.after p.literal.toList = state.step c := by
  obtain ⟨outside, mark⟩ := Bool.and_eq_true_iff.mp placeholder
  rw [eq_of_beq outside, eq_of_beq mark]
  exact (isClosed_iff _).mp p.isVerbatim_literal.closed

theorem countPlaceholders_literal {state : QuoteState} {c : Char}
    (placeholder : isPlaceholder state c = true) (p : Scalar) :
    countPlaceholders state p.literal.toList = 0 := by
  rw [eq_of_beq (Bool.and_eq_true_iff.mp placeholder).1]
  exact p.isVerbatim_literal.count

/-- Behind a text a scan stands where it stands behind the inlined text. -/
theorem QuoteState.after_inlineChars (state : QuoteState) (cs : List Char) (params : List Scalar) :
    state.after (inlineChars state cs params) = state.after cs := by
  induction cs generalizing state params with
  | nil => rfl
  | cons c cs inductionHypothesis =>
    have kept (params : List Scalar) :
        state.after (c :: inlineChars (state.step c) cs params) = state.after (c :: cs) :=
      inductionHypothesis (state.step c) params
    cases params with
    | nil => exact kept []
    | cons p params =>
      rw [inlineChars]
      split
      · rename_i placeholder
        rw [after_append, after_literal placeholder, inductionHypothesis]
        rfl
      · exact kept (p :: params)

/-- Each parameter takes the place of one placeholder, as long as there are any. -/
theorem countPlaceholders_inlineChars (state : QuoteState) (cs : List Char) (params : List Scalar) :
    countPlaceholders state (inlineChars state cs params) =
      countPlaceholders state cs - params.length := by
  induction cs generalizing state params with
  | nil => exact (Nat.zero_sub params.length).symm
  | cons c cs inductionHypothesis =>
    cases params with
    | nil => rw [inlineChars_nil, List.length_nil, Nat.sub_zero]
    | cons p params =>
      by_cases placeholder : isPlaceholder state c = true
      · rw [inlineChars, if_pos placeholder, countPlaceholders_append,
          countPlaceholders_literal placeholder, QuoteState.after_literal placeholder,
          inductionHypothesis, countPlaceholders, if_pos placeholder, List.length_cons]
        omega
      · have kept : isPlaceholder state c = false := by simpa using placeholder
        rw [inlineChars_cons_of_not_isPlaceholder kept, countPlaceholders, countPlaceholders,
          if_neg placeholder, inductionHypothesis, Nat.zero_add, Nat.zero_add]

/-! ## Statements -/

theorem Fragment.isClosed_inline {f : Fragment} (closed : isClosed f.sql = true) :
    isClosed f.inline = true := by
  rw [isClosed_iff] at closed ⊢
  rw [inline, inlined, String.toList_ofList, QuoteState.after_inlineChars, closed]

theorem Fragment.placeholderCount_inline (f : Fragment) :
    placeholderCount f.inline = f.placeholders - f.params.length := by
  rw [inline, inlined, placeholderCount, String.toList_ofList, countPlaceholders_inlineChars]
  rfl

/-- **Inlining fills placeholders and nothing else.**  A closed statement is inlined as a closed text,
which has the placeholders for which there is no parameter.  Two fragments with verbatim text between
them are inlined one by one, if the first has a parameter for each of its placeholders. -/
theorem Statement.inline_fills :
    (∀ s : Statement, isClosed s.sql = true →
      isClosed s.inline = true ∧
        placeholderCount s.inline =
          placeholderCount s.sql - min (placeholderCount s.sql) s.params.length) ∧
      ∀ (f g : Fragment) (separator : String), f.IsBalanced → IsVerbatim separator →
        f.sql ≠ "" → g.sql ≠ "" →
        (f.append g separator).inline = f.inline ++ separator ++ g.inline := by
  refine ⟨fun s closed => ⟨Fragment.isClosed_inline closed, ?_⟩,
    fun f g separator balanced verbatim left right => ?_⟩
  · have filled : placeholderCount s.inline = placeholderCount s.sql - s.params.length :=
      s.fragment.placeholderCount_inline
    omega
  · have begun : ¬(g.sql.isEmpty = true ∨ f.sql.isEmpty = true) := by
      simpa [String.isEmpty_iff] using And.intro right left
    rw [Fragment.append_eq, if_neg begun, Fragment.inline_append (balanced.append verbatim),
      Fragment.inline_append balanced, Fragment.inline_raw]

/-- A literal that touches the quotes of its statement and holds quotes and a question mark, one
parameter too few, and two fragments with a quoted question mark between them. -/
theorem Statement.inline_fills_touching :
    let s : Statement := ⟨.select, "SELECT 'a'? || \"?\" || ?", [.text "it's?"]⟩
    let f : Fragment := ⟨"a = ?", [.blob [0, 255]]⟩
    let g : Fragment := ⟨"b = ? OR c = ?", [.float .nan]⟩
    s.inline = "SELECT 'a''it''s?' || \"?\" || ?" ∧
      isClosed s.inline = true ∧ placeholderCount s.inline = 1 ∧
      (f.append g " AND '?' = ").inline = "a = X'00FF' AND '?' = b = NaN OR c = ?" := by
  intro s f g
  obtain ⟨fills, joined⟩ := Statement.inline_fills
  obtain ⟨closed, left⟩ := fills s (by decide)
  refine ⟨by decide, closed, left.trans (by decide), ?_⟩
  rw [joined f g " AND '?' = " (by decide) (by decide) (by decide) (by decide)]
  decide

end SqlAssembly
