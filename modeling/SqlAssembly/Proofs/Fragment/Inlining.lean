import SqlAssembly.Proofs.Fragment.Congruence
import SqlAssembly.Proofs.Scalar.Literal

/-! # Writing parameters into the text

A balanced text has one parameter for each placeholder, so inlining two balanced texts in
a row inlines each with its own parameters.  This makes a fragment and its inlined text
related in the sense of a congruence: whatever is assembled of fragments is, inlined,
assembled of the inlined fragments in the same way.

* `Fragment.inline_append` — inlining distributes over texts in a row.
* `Fragment.Inlines` — a balanced fragment and the fragment of its inlined text.
* `congruence_inlines` — the relation is a congruence.
-/

namespace SqlAssembly

/-! ## Characters -/

theorem inlineChars_nil (state : QuoteState) (cs : List Char) : inlineChars state cs [] = cs := by
  induction cs generalizing state with
  | nil => rfl
  | cons c cs inductionHypothesis => rw [inlineChars, inductionHypothesis]

/-- A character that is no placeholder stays, whatever parameters are left. -/
theorem inlineChars_cons_of_not_isPlaceholder {state : QuoteState} {c : Char}
    (kept : isPlaceholder state c = false) (cs : List Char) (params : List Scalar) :
    inlineChars state (c :: cs) params = c :: inlineChars (state.step c) cs params := by
  cases params with
  | nil => rw [inlineChars]
  | cons p params => rw [inlineChars, if_neg (by simp [kept])]

/-- The parameters of a text are used up at its end, and the next text starts with its own. -/
theorem inlineChars_append {state : QuoteState} {cs : List Char} {params : List Scalar}
    (counted : countPlaceholders state cs = params.length) (ds : List Char) (more : List Scalar) :
    inlineChars state (cs ++ ds) (params ++ more) =
      inlineChars state cs params ++ inlineChars (state.after cs) ds more := by
  -- the count says that each placeholder still finds a parameter of its own text
  induction cs generalizing state params with
  | nil =>
    have nothing : params = [] := List.length_eq_zero_iff.mp counted.symm
    subst nothing
    rfl
  | cons c cs inductionHypothesis =>
    rw [countPlaceholders] at counted
    by_cases placeholder : isPlaceholder state c = true
    · rw [if_pos placeholder] at counted
      cases params with
      | nil => simp at counted
      | cons p params =>
        have rest : countPlaceholders (state.step c) cs = params.length := by
          rw [List.length_cons] at counted
          omega
        rw [List.cons_append, List.cons_append, inlineChars, if_pos placeholder, inlineChars,
          if_pos placeholder, inductionHypothesis rest, List.append_assoc]
        rfl
    · have kept : isPlaceholder state c = false := by simpa using placeholder
      rw [if_neg placeholder, Nat.zero_add] at counted
      rw [List.cons_append, inlineChars_cons_of_not_isPlaceholder kept,
        inlineChars_cons_of_not_isPlaceholder kept, inductionHypothesis counted]
      rfl

/-- A literal is as little blank as the placeholder whose place it takes. -/
theorem all_isBlankChar_inlineChars (state : QuoteState) (cs : List Char) (params : List Scalar) :
    (inlineChars state cs params).all Text.isBlankChar = cs.all Text.isBlankChar := by
  induction cs generalizing state params with
  | nil => rfl
  | cons c cs inductionHypothesis =>
    cases params with
    | nil => rw [inlineChars_nil]
    | cons p params =>
      by_cases placeholder : isPlaceholder state c = true
      · have mark : c = '?' := by simpa using (Bool.and_eq_true_iff.mp placeholder).2
        have literal : p.literal.toList.all Text.isBlankChar = false := p.isBlank_literal
        have visible : Text.isBlankChar '?' = false := by decide
        rw [inlineChars, if_pos placeholder, List.all_append, literal, List.all_cons, mark, visible]
        rfl
      · have kept : isPlaceholder state c = false := by simpa using placeholder
        rw [inlineChars_cons_of_not_isPlaceholder kept, List.all_cons, List.all_cons,
          inductionHypothesis]

theorem isEmpty_inlineChars (state : QuoteState) (cs : List Char) (params : List Scalar) :
    (inlineChars state cs params).isEmpty = cs.isEmpty := by
  cases cs with
  | nil => rfl
  | cons c cs =>
    cases params with
    | nil => rw [inlineChars_nil]
    | cons p params =>
      have literal : p.literal.toList ≠ [] := by
        intro nothing
        have blank := p.isBlank_literal
        rw [Text.isBlank, nothing] at blank
        cases blank
      rw [inlineChars]
      split
      · simp [literal]
      · rfl

/-! ## Fragments -/

namespace Fragment

theorem inline_raw (t : String) : (raw t).inline = t := by
  rw [inline, inlined, params_raw, inlineChars_nil, sql_raw, String.ofList_toList]

theorem inline_append {f : Fragment} (balanced : f.IsBalanced) (g : Fragment) :
    (f ++ g).inline = f.inline ++ g.inline := by
  -- the second text is scanned from where it would start by itself
  have ends := (isClosed_iff _).mp balanced.closed
  simp only [inline, inlined, sql_append, params_append, String.toList_append]
  rw [inlineChars_append balanced.count, ends, String.ofList_append]

theorem isBlank_inline (f : Fragment) : (raw f.inline).isBlank = f.isBlank := by
  simp only [isBlank, Text.isBlank, sql_raw, inline, inlined, String.toList_ofList]
  exact all_isBlankChar_inlineChars none f.sql.toList f.params

theorem isEmpty_inline (f : Fragment) : f.inline.isEmpty = f.sql.isEmpty := by
  have chars := isEmpty_inlineChars none f.sql.toList f.params
  rw [Bool.eq_iff_iff, List.isEmpty_iff, List.isEmpty_iff] at chars
  rw [Bool.eq_iff_iff, String.isEmpty_iff, String.isEmpty_iff, inline, inlined]
  simpa using chars

/-- A placeholder for a parameter is inlined as its literal. -/
theorem inline_placeholder (s : Scalar) : (Fragment.mk "?" [s]).inline = s.literal := by
  simp [inline, inlined, inlineChars, isPlaceholder]

/-- A balanced fragment, and the text in which its parameters are written out. -/
structure Inlines (f f' : Fragment) : Prop where
  balanced : f.IsBalanced
  written : f' = raw f.inline

end Fragment

/-- Whatever is assembled of balanced fragments is balanced, and is inlined as it would be
assembled of their inlined texts. -/
theorem congruence_inlines : Congruence Fragment.Inlines where
  verbatim verbatim := ⟨verbatim, by rw [Fragment.inline_raw]⟩
  concat left right := by
    refine ⟨left.balanced.append right.balanced, ?_⟩
    rw [Fragment.inline_append left.balanced, Fragment.raw_append, left.written, right.written]
  isEmpty related := by rw [related.written, Fragment.sql_raw, Fragment.isEmpty_inline]
  isBlank related := by rw [related.written, Fragment.isBlank_inline]

end SqlAssembly
