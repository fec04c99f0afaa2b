import SqlAssembly.Proofs.Fragment.Congruence
import SqlAssembly.Proofs.Identifier.Front

/-! # Quoting

Between two quotes every quote of the text is written twice, so a scan that enters the
region leaves it at the last quote and not before.  An identifier is therefore verbatim
whatever its name holds, and a bare token is verbatim when the caller's text is.

A dialect that leaves dotted names as they are writes the name itself into the statement;
`Dialect.quotesSafely` tells the names that are verbatim then.
-/

namespace SqlAssembly

/-! ## Quoted text -/

/-- A scan inside a region passes over text whose quotes are doubled: each pair closes the region
and opens it again. -/
theorem after_doubled {q : Char} (quote : isQuoteChar q = true) (cs : List Char) :
    QuoteState.after (some q) (cs.flatMap fun c => if c == q then [q, q] else [c]) = some q := by
  induction cs with
  | nil => rfl
  | cons c cs inductionHypothesis =>
    rw [List.flatMap_cons, QuoteState.after_append]
    by_cases same : (c == q) = true
    · have reopened : QuoteState.after (some q) [q, q] = some q := by
        simp [QuoteState.after, QuoteState.step, quote]
      rw [if_pos same, reopened, inductionHypothesis]
    · have inside : QuoteState.after (some q) [c] = some q := by
        simp [QuoteState.after, QuoteState.step, same]
      rw [if_neg same, inside, inductionHypothesis]

theorem isPlaceholder_of_isQuoteChar {c : Char} (quote : isQuoteChar c = true)
    (state : QuoteState) : isPlaceholder state c = false := by
  rw [← Bool.not_eq_true]
  intro placeholder
  have same : c = '?' := by simpa [isPlaceholder] using (Bool.and_eq_true_iff.mp placeholder).2
  rw [same] at quote
  exact absurd quote (by decide)

theorem countPlaceholders_doubled {q : Char} (quote : isQuoteChar q = true) (cs : List Char) :
    countPlaceholders (some q) (cs.flatMap fun c => if c == q then [q, q] else [c]) = 0 := by
  have quotesOnly := isPlaceholder_of_isQuoteChar quote
  induction cs with
  | nil => rfl
  | cons c cs inductionHypothesis =>
    rw [List.flatMap_cons, countPlaceholders_append]
    by_cases same : (c == q) = true
    · have pair : countPlaceholders (some q) [q, q] = 0 := by simp [countPlaceholders, quotesOnly]
      have reopened : QuoteState.after (some q) [q, q] = some q := by
        simp [QuoteState.after, QuoteState.step, quote]
      rw [if_pos same, reopened, inductionHypothesis, pair]
    · have single : countPlaceholders (some q) [c] = 0 := by
        simp [countPlaceholders, isPlaceholder]
      have inside : QuoteState.after (some q) [c] = some q := by
        simp [QuoteState.after, QuoteState.step, same]
      rw [if_neg same, inside, inductionHypothesis, single]

/-- Text between quotes is verbatim when its quotes are written twice. -/
theorem isVerbatim_quoted {q : Char} (quote : isQuoteChar q = true) (s : String) :
    IsVerbatim (String.singleton q ++ Text.doubleChar q s ++ String.singleton q) := by
  have chars : (String.singleton q ++ Text.doubleChar q s ++ String.singleton q).toList =
      [q] ++ (s.toList.flatMap fun c => if c == q then [q, q] else [c]) ++ [q] := by
    simp [Text.doubleChar]
  have opens : QuoteState.after none [q] = some q := by
    simp [QuoteState.after, QuoteState.step, quote]
  have closes : QuoteState.after (some q) [q] = none := by
    simp [QuoteState.after, QuoteState.step]
  have uncounted (state : QuoteState) : countPlaceholders state [q] = 0 := by
    simp [countPlaceholders, isPlaceholder_of_isQuoteChar quote]
  constructor
  · rw [isClosed_iff, Fragment.sql_raw, chars, QuoteState.after_append, QuoteState.after_append,
      opens, after_doubled quote, closes]
  · rw [Fragment.placeholders, placeholderCount, Fragment.sql_raw, chars, countPlaceholders_append,
      countPlaceholders_append, opens, countPlaceholders_doubled quote, uncounted, uncounted]
    rfl

/-! ## Identifiers -/

namespace Dialect

variable (dialect : Dialect)

/-- Whether a name can be trusted to stay inside its quotes.  Without quotes around a dotted
name nothing in the name may open a quote or stand for a parameter. -/
def quotesSafely (name : String) : Bool :=
  dialect.quotesDotted || !name.toList.contains '.' || (Text.marks name).isEmpty

theorem identifierQuote_isQuoteChar : isQuoteChar dialect.identifierQuote = true := by
  cases dialect <;> rfl

theorem isVerbatim_quoteSegment (segment : String) : IsVerbatim (dialect.quoteSegment segment) := by
  unfold quoteSegment
  split
  · rename_i all
    rw [all]
    exact .of_marks_eq_nil rfl
  · exact isVerbatim_quoted dialect.identifierQuote_isQuoteChar segment

variable {dialect}

theorem isVerbatim_quoteIdentifier {name : String} (safe : dialect.quotesSafely name = true) :
    IsVerbatim (dialect.quoteIdentifier name) := by
  unfold quoteIdentifier
  split
  · rename_i bare
    rw [Bool.and_eq_true, Bool.not_eq_true'] at bare
    rw [quotesSafely, bare.1, bare.2] at safe
    exact .of_marks_eq_nil (List.isEmpty_iff.mp (by simpa using safe))
  · refine .intercalate (.of_marks_eq_nil rfl) ?_
    intro text member
    obtain ⟨segment, _, rfl⟩ := List.mem_map.mp member
    exact dialect.isVerbatim_quoteSegment segment

/-- A token that can only be a name has no marks. -/
theorem marks_of_isIdentifier {token : String} (identifier : isIdentifier token = true) :
    Text.marks token = [] := by
  unfold isIdentifier at identifier
  simp only [Bool.and_eq_true, List.all_eq_true] at identifier
  exact Text.marks_eq_nil fun c member =>
    isMark_eq_false (identifier.1.2 c member) rfl

theorem isVerbatim_of_isIdentifier {token : String} (identifier : isIdentifier token = true) :
    IsVerbatim (dialect.quoteIdentifier token) :=
  isVerbatim_quoteIdentifier (by simp [quotesSafely, marks_of_isIdentifier identifier])

/-- Quoting the name of a bare token adds closed text only. -/
theorem isVerbatim_quoteToken {token : String} (verbatim : IsVerbatim token) :
    IsVerbatim (dialect.quoteToken token) := by
  by_cases leads : Leads token
  · -- the words behind the name have all the marks of the token
    have marks := Text.marks_append (Text.front token) (Text.behind token)
    rw [Text.front_append_behind, marks_of_isIdentifier leads.1, List.nil_append] at marks
    rw [quoteToken_of_leads leads]
    exact (isVerbatim_of_isIdentifier leads.1).append ((isVerbatim_congr marks).mp verbatim)
  · rwa [quoteToken_of_not_leads leads]

theorem isVerbatim_groupItem {token : String} (verbatim : IsVerbatim token) :
    IsVerbatim (dialect.groupItem token) := by
  unfold groupItem
  split
  · rename_i identifier
    exact isVerbatim_of_isIdentifier identifier
  · exact verbatim

end Dialect

/-! ## Order specifications -/

namespace OrderSpec

variable {dialect : Dialect}

theorem marks_keyword (direction : Direction) : Text.marks (" " ++ direction.keyword) = [] := by
  cases direction <;> rfl

theorem isVerbatim_column {name : String} (verbatim : IsVerbatim name) (direction : Direction) :
    IsVerbatim ((OrderSpec.column name direction).sql dialect) := by
  rw [sql, String.append_assoc]
  exact (Dialect.isVerbatim_quoteToken verbatim).append (.of_marks_eq_nil (marks_keyword direction))

/-- A word that names a direction has no marks. -/
theorem marks_of_direction? {word : String} {direction : Direction}
    (named : direction? word = some direction) : Text.marks word = [] := by
  apply Text.marks_eq_nil
  intro c member
  rw [← Bool.not_eq_true]
  intro mark
  have lowered : c ∈ (Text.asciiLower word).toList := by
    rw [Text.asciiLower, String.toList_ofList, ← Text.toLower_of_isMark mark]
    exact List.mem_map_of_mem member
  -- a mark has no other case, so it would be in the keyword as well
  have unmarked (other : String) (same : Text.asciiLower word = other)
      (none : other.toList.all (!isMark ·) = true) : False := by
    rw [same] at lowered
    have kept := List.all_eq_true.mp none c lowered
    simp [mark] at kept
  unfold direction? at named
  split at named
  · rename_i ascending
    exact unmarked _ ascending (by decide)
  · rename_i descending
    exact unmarked _ descending (by decide)
  · cases named

theorem isVerbatim_ofWords {spec : String} (verbatim : IsVerbatim spec) :
    IsVerbatim ((ofWords spec).sql dialect) := by
  have words := Text.flatMap_marks_words spec
  unfold ofWords
  split
  · rename_i name cut
    rw [cut] at words
    exact isVerbatim_column ((isVerbatim_congr (by simpa using words.symm)).mp verbatim) _
  · rename_i name word cut
    rw [cut] at words
    split
    · rename_i direction named
      have unmarked := marks_of_direction? named
      exact isVerbatim_column
        ((isVerbatim_congr (by simpa [unmarked] using words.symm)).mp verbatim) _
    · exact verbatim
  · exact verbatim

theorem isVerbatim_ofText {text : String} (verbatim : IsVerbatim text) :
    IsVerbatim ((ofText text).sql dialect) := by
  have trimmed : IsVerbatim (Text.trim text) :=
    (isVerbatim_congr (Text.marks_trim text)).mpr verbatim
  unfold ofText
  simp only
  split
  · split
    · rename_i identifier
      exact isVerbatim_column
        (.of_marks_eq_nil (Dialect.marks_of_isIdentifier identifier)) _
    · exact isVerbatim_ofWords trimmed
  · exact isVerbatim_ofWords trimmed

end OrderSpec

/-! ## Joins -/

/-- Whether the words of a join are verbatim; only those of a custom kind are a caller's. -/
def JoinKind.isWellQuoted : JoinKind → Bool
  | .custom words => decide (IsVerbatim words)
  | _ => true

theorem JoinKind.isVerbatim_keyword {kind : JoinKind} (wellQuoted : kind.isWellQuoted = true) :
    IsVerbatim kind.keyword := by
  cases kind with
  | custom words =>
    have verbatim : IsVerbatim words := of_decide_eq_true wellQuoted
    -- the words are trimmed and put in upper case, which leaves their marks alone
    have upper : Text.marks (Text.asciiUpper (Text.trim words)) = Text.marks words := by
      rw [Text.marks_asciiUpper, Text.marks_trim]
    exact ((isVerbatim_congr upper).mpr verbatim).append (.of_marks_eq_nil rfl)
  | natural | inner | left | right | full | cross => exact .of_marks_eq_nil rfl

end SqlAssembly
