import SqlAssembly.Fragment.Basic

/-! # Scanning for placeholders

A scan reads a text from left to right, so scanning two texts in a row is scanning the
second from the state the first ends in.  Of all characters a scan only reacts to the
quote characters and the question mark, the *marks*; whatever keeps the marks of a text
keeps how it is scanned.

* `Fragment.IsBalanced` — the text is closed and each placeholder has its parameter.
* `IsVerbatim` — SQL text that is closed and holds no placeholder.
* `isVerbatim_congr` — only the marks of a text decide whether it is verbatim.
-/

namespace SqlAssembly

/-! ## Texts in a row -/

theorem QuoteState.after_append (state : QuoteState) (cs ds : List Char) :
    state.after (cs ++ ds) = (state.after cs).after ds := List.foldl_append

theorem countPlaceholders_append (state : QuoteState) (cs ds : List Char) :
    countPlaceholders state (cs ++ ds) =
      countPlaceholders state cs + countPlaceholders (state.after cs) ds := by
  induction cs generalizing state with
  | nil => simp [countPlaceholders, QuoteState.after]
  | cons c cs inductionHypothesis =>
    simp only [List.cons_append, countPlaceholders, inductionHypothesis]
    simp only [QuoteState.after, List.foldl_cons]
    omega

theorem isClosed_iff (s : String) : isClosed s = true ↔ QuoteState.after none s.toList = none := by
  simp [isClosed]

/-! ## Fragments in a row -/

/-- Two fragments without anything between them. -/
instance : Append Fragment := ⟨fun f g => ⟨f.sql ++ g.sql, f.params ++ g.params⟩⟩

namespace Fragment

@[simp] theorem sql_append (f g : Fragment) : (f ++ g).sql = f.sql ++ g.sql := rfl

@[simp] theorem params_append (f g : Fragment) : (f ++ g).params = f.params ++ g.params := rfl

@[simp] theorem sql_raw (t : String) : (raw t).sql = t := rfl

@[simp] theorem params_raw (t : String) : (raw t).params = [] := rfl

theorem raw_append (s t : String) : raw (s ++ t) = raw s ++ raw t := rfl

/-- A fragment is balanced when a scan of its text ends outside quotes and each placeholder
on the way has its parameter. -/
structure IsBalanced (f : Fragment) : Prop where
  closed : isClosed f.sql = true
  count : f.placeholders = f.params.length

instance (f : Fragment) : Decidable f.IsBalanced :=
  decidable_of_iff (isClosed f.sql = true ∧ f.placeholders = f.params.length)
    ⟨fun both => ⟨both.1, both.2⟩, fun balanced => ⟨balanced.closed, balanced.count⟩⟩

theorem IsBalanced.append {f g : Fragment} (left : f.IsBalanced) (right : g.IsBalanced) :
    (f ++ g).IsBalanced := by
  have ends := (isClosed_iff _).mp left.closed
  have endsAgain := (isClosed_iff _).mp right.closed
  have counts := left.count
  have countsAgain := right.count
  simp only [placeholders, placeholderCount] at counts countsAgain
  constructor
  · rw [isClosed_iff, sql_append, String.toList_append, QuoteState.after_append, ends, endsAgain]
  · rw [placeholders, placeholderCount, sql_append, String.toList_append,
      countPlaceholders_append, ends, counts, countsAgain, params_append, List.length_append]

end Fragment

/-! ## Marks -/

/-- Quote characters and question marks are all that a scan reacts to. -/
def isMark (c : Char) : Bool := isQuoteChar c || c == '?'

/-- The marks of a text, in order. -/
def Text.marks (s : String) : List Char := s.toList.filter isMark

@[simp] theorem Text.marks_append (s t : String) :
    Text.marks (s ++ t) = Text.marks s ++ Text.marks t := by simp [Text.marks]

@[simp] theorem Text.marks_ofList (cs : List Char) :
    Text.marks (String.ofList cs) = cs.filter isMark := by simp [Text.marks]

namespace QuoteState

/-- A region is closed by a quote character. -/
def IsProper (state : QuoteState) : Prop := ∀ q, state = some q → isQuoteChar q = true

theorem IsProper.none : IsProper none := fun _ impossible => nomatch impossible

theorem IsProper.step {state : QuoteState} (proper : state.IsProper) (c : Char) :
    (state.step c).IsProper := by
  intro q
  cases state with
  | none =>
    simp only [QuoteState.step]
    split
    · rename_i opens; intro same; cases same; exact opens
    · intro impossible; cases impossible
  | some p =>
    simp only [QuoteState.step]
    split
    · intro impossible; cases impossible
    · exact proper q

theorem step_of_not_mark {state : QuoteState} (proper : state.IsProper) {c : Char}
    (plain : isMark c = false) : state.step c = state := by
  simp only [isMark, Bool.or_eq_false_iff] at plain
  cases state with
  | none => simp [QuoteState.step, plain.1]
  | some q =>
    -- only a quote character closes a region, and that would be a mark
    have differs : (c == q) = false := by
      rw [beq_eq_false_iff_ne]
      intro same
      have quote := proper q rfl
      rw [← same, plain.1] at quote
      contradiction
    simp [QuoteState.step, differs]

/-- A scan passes over everything but marks. -/
theorem after_filter_isMark {state : QuoteState} (proper : state.IsProper) (cs : List Char) :
    state.after (cs.filter isMark) = state.after cs := by
  -- the state stays proper along the text, which is what lets other characters be dropped
  induction cs generalizing state with
  | nil => rfl
  | cons c cs inductionHypothesis =>
    by_cases mark : isMark c = true
    · rw [List.filter_cons_of_pos mark]
      exact inductionHypothesis (proper.step c)
    · rw [List.filter_cons_of_neg mark, inductionHypothesis proper]
      simp only [Bool.not_eq_true] at mark
      simp only [QuoteState.after, List.foldl_cons, step_of_not_mark proper mark]

end QuoteState

theorem countPlaceholders_filter_isMark {state : QuoteState} (proper : state.IsProper)
    (cs : List Char) : countPlaceholders state (cs.filter isMark) = countPlaceholders state cs := by
  induction cs generalizing state with
  | nil => rfl
  | cons c cs inductionHypothesis =>
    by_cases mark : isMark c = true
    · rw [List.filter_cons_of_pos mark]
      simp only [countPlaceholders, inductionHypothesis (proper.step c)]
    · rw [List.filter_cons_of_neg mark, inductionHypothesis proper]
      simp only [Bool.not_eq_true] at mark
      have counted : isPlaceholder state c = false := by
        simp only [isMark, Bool.or_eq_false_iff] at mark
        simp [isPlaceholder, mark.2]
      simp [countPlaceholders, counted, QuoteState.step_of_not_mark proper mark]

/-! ## Verbatim text -/

/-- SQL text that may be written into a statement as it is: it is closed and holds no
placeholder. -/
abbrev IsVerbatim (t : String) : Prop := (Fragment.raw t).IsBalanced

theorem isVerbatim_iff (t : String) :
    IsVerbatim t ↔ QuoteState.after none (Text.marks t) = none ∧
      countPlaceholders none (Text.marks t) = 0 := by
  rw [Text.marks, QuoteState.after_filter_isMark .none, countPlaceholders_filter_isMark .none,
    ← isClosed_iff]
  exact ⟨fun balanced => ⟨balanced.closed, balanced.count⟩, fun both => ⟨both.1, both.2⟩⟩

/-- Only the marks of a text decide whether it is verbatim. -/
theorem isVerbatim_congr {s t : String} (same : Text.marks s = Text.marks t) :
    IsVerbatim s ↔ IsVerbatim t := by
  rw [isVerbatim_iff, isVerbatim_iff, same]

namespace IsVerbatim

theorem of_marks_eq_nil {t : String} (unmarked : Text.marks t = []) : IsVerbatim t := by
  rw [isVerbatim_iff, unmarked]
  exact ⟨rfl, rfl⟩

theorem append {s t : String} (left : IsVerbatim s) (right : IsVerbatim t) : IsVerbatim (s ++ t) :=
  Fragment.IsBalanced.append left right

end IsVerbatim

end SqlAssembly
