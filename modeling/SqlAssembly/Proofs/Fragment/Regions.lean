import SqlAssembly.Proofs.Fragment.Scanner
import SqlAssembly.Proofs.Keywords

/-! # Two scans of one text

Placeholders are looked for outside the regions of quote characters, keywords outside those and
outside brackets.  Either scan is told by its *trace*: the characters of the text, each with the
region that the scan stands in before it.  The two traces differ from the first bracket on that
opens a region, so a question mark inside a name in brackets is a placeholder to the one scan and
part of a name to the other.

* `trace`, `mem_trace_iff` — scans with all the regions on the way.
* `Text.quotes`, `Text.regions` — the traces of the two scans.
* `placeholderCount_eq`, `inlined_eq`, `keywords_eq` — what is read off either trace.
* `Text.sameRegions_iff`, `Text.quotes_eq_map_regions` — where the traces agree.
-/

namespace SqlAssembly

/-! ## Traces -/

/-- The characters of a text, each with the region that a scan stands in before it. -/
def trace (step : Option Char → Char → Option Char) :
    Option Char → List Char → List (Option Char × Char)
  | _, [] => []
  | region, c :: cs => (region, c) :: trace step (step region c) cs

section Traces

variable {step other : Option Char → Char → Option Char} {region place : Option Char} {c : Char}
  {cs : List Char}

theorem mem_trace_iff : (place, c) ∈ trace step region cs ↔
    ∃ front behind, cs = front ++ c :: behind ∧ front.foldl step region = place := by
  induction cs generalizing region with
  | nil => simp [trace]
  | cons d cs inductionHypothesis =>
    rw [trace, List.mem_cons, inductionHypothesis]
    constructor
    · rintro (here | ⟨front, behind, rfl, rfl⟩)
      · cases here
        exact ⟨[], cs, rfl, rfl⟩
      · exact ⟨d :: front, behind, rfl, rfl⟩
    · rintro ⟨front, behind, parts, rfl⟩
      cases front with
      | nil =>
        cases parts
        exact .inl rfl
      | cons e front =>
        cases parts
        exact .inr ⟨front, behind, rfl, rfl⟩

/-- Steps that `view` carries over to those of another scan carry over the whole trace and the
region at its end. -/
theorem trace_of_view (view : Option Char → Option Char)
    (carried : ∀ place c, (place, c) ∈ trace step region cs → other (view place) c = view (step place c)) :
    trace other (view region) cs = (trace step region cs).map (Prod.map view id) ∧
      cs.foldl other (view region) = view (cs.foldl step region) := by
  induction cs generalizing region with
  | nil => exact ⟨rfl, rfl⟩
  | cons d cs inductionHypothesis =>
    have here := carried region d List.mem_cons_self
    have rest := inductionHypothesis fun place c member => carried place c (List.mem_cons_of_mem _ member)
    rw [trace, List.foldl_cons, here, rest.1, rest.2]
    exact ⟨rfl, rfl⟩

end Traces

/-! ## What is read off a trace -/

/-- The characters of a trace, with literals in place of the question marks outside all regions. -/
def fill : List (Option Char × Char) → List Scalar → List Char
  | [], _ => []
  | (_, c) :: places, [] => c :: fill places []
  | (region, c) :: places, p :: params =>
    if isPlaceholder region c then p.literal.toList ++ fill places params
    else c :: fill places (p :: params)

/-- No word goes on over a character that is inside a region or belongs to no keyword. -/
def isBreak (place : Option Char × Char) : Bool := place.1.isSome || !isKeywordChar place.2

/-- The word of a run of places without a break, if the run is one. -/
def spelled (run : List (Option Char × Char)) : List String :=
  finishedKeyword (run.map fun place => place.2.toUpper).reverse

/-- The trace of the scan for placeholders. -/
def Text.quotes (sql : String) : List (Option Char × Char) := trace QuoteState.step none sql.toList

/-- The trace of the scan for keywords. -/
def Text.regions (sql : String) : List (Option Char × Char) := trace regionStep none sql.toList

theorem countPlaceholders_eq (region : QuoteState) (cs : List Char) :
    countPlaceholders region cs = (trace QuoteState.step region cs).count (none, '?') := by
  induction cs generalizing region with
  | nil => rfl
  | cons c cs inductionHypothesis =>
    rw [countPlaceholders, trace, List.count_cons, inductionHypothesis, Nat.add_comm]
    cases region <;> simp [isPlaceholder]

theorem placeholderCount_eq (sql : String) : placeholderCount sql = (Text.quotes sql).count (none, '?') :=
  countPlaceholders_eq none sql.toList

theorem inlineChars_eq (region : QuoteState) (cs : List Char) (params : List Scalar) :
    inlineChars region cs params = fill (trace QuoteState.step region cs) params := by
  induction cs generalizing region params with
  | nil => cases params <;> rfl
  | cons c cs inductionHypothesis =>
    cases params <;> simp only [inlineChars, trace, fill, inductionHypothesis]

theorem inlined_eq (sql : String) (params : List Scalar) :
    inlined sql params = String.ofList (fill (Text.quotes sql) params) := by
  rw [inlined, inlineChars_eq, Text.quotes]

/-- The word being read goes on in the first run of what lies ahead, and every other run is a word
of its own. -/
theorem keywordsFrom_eq {region : Option Char} {word cs : List Char} (proper : region = none ∨ word = []) :
    ∃ first runs, (trace regionStep region cs).splitOnP isBreak = first :: runs ∧
      keywordsFrom region word cs =
        finishedKeyword ((first.map fun place => place.2.toUpper).reverse ++ word) ++ runs.flatMap spelled := by
  induction cs generalizing region word with
  | nil =>
    refine ⟨[], [], by simp [trace], ?_⟩
    rw [keywordsFrom, List.flatMap_nil, List.append_nil]
    rfl
  | cons c cs inductionHypothesis =>
    cases region with
    | some q =>
      obtain rfl : word = [] := proper.resolve_left (Option.some_ne_none q)
      obtain ⟨first, runs, cut, words⟩ := @inductionHypothesis (regionStep (some q) c) [] (.inr rfl)
      refine ⟨[], first :: runs, ?_, ?_⟩
      · simp [trace, List.splitOnP_cons_eq_if_modifyHead, isBreak, cut]
      · rw [List.append_nil] at words
        exact words
    | none =>
      rw [keywordsFrom]
      split
      · rename_i inWord
        obtain ⟨first, runs, cut, words⟩ := @inductionHypothesis none (c.toUpper :: word) (.inl rfl)
        refine ⟨(none, c) :: first, runs, ?_, ?_⟩
        · have stays : regionStep none c = none := closingChar?_of_isKeywordChar inWord
          simp [trace, List.splitOnP_cons_eq_if_modifyHead, isBreak, inWord, stays, cut]
        · simp [words]
      · rename_i outside
        obtain ⟨first, runs, cut, words⟩ := @inductionHypothesis (closingChar? c) [] (.inr rfl)
        refine ⟨[], first :: runs, ?_, ?_⟩
        · have opens : regionStep none c = closingChar? c := rfl
          simp [trace, List.splitOnP_cons_eq_if_modifyHead, isBreak, outside, opens, cut]
        · rw [List.append_nil] at words
          rw [words]
          rfl

theorem keywords_eq (sql : String) :
    keywords sql = ((Text.regions sql).splitOnP isBreak).flatMap spelled := by
  obtain ⟨first, runs, cut, words⟩ := @keywordsFrom_eq none [] sql.toList (.inl rfl)
  rw [Text.regions, cut, List.flatMap_cons, keywords, words, List.append_nil, spelled]

/-! ## Where the two scans agree -/

/-- A region without those that brackets open. -/
def unbracketed : Option Char → Option Char
  | none => none
  | some q => if q = ']' then none else some q

theorem step_eq_regionStep {region : Option Char} {c : Char} (plain : (region, c) ≠ (none, '[')) :
    regionStep region c = QuoteState.step region c := by
  cases region with
  | some q => rfl
  | none =>
    have plain : ¬ (c == '[') = true := by simpa using plain
    simp only [regionStep, closingChar?, QuoteState.step, if_neg plain]

/-- Only a quote character between brackets would be taken for the start of a quoted text. -/
theorem step_unbracketed {region : Option Char} {c : Char}
    (plain : region = some ']' → isQuoteChar c = false) :
    QuoteState.step (unbracketed region) c = unbracketed (regionStep region c) := by
  cases region with
  | none =>
    by_cases quote : isQuoteChar c = true
    · have differs : c ≠ ']' := by
        rintro rfl
        cases quote
      simp [unbracketed, QuoteState.step, regionStep, closingChar?, quote, differs]
    · by_cases bracket : c = '['
      · subst bracket
        rfl
      · simp [unbracketed, QuoteState.step, regionStep, closingChar?, quote, bracket]
  | some q =>
    by_cases bracket : q = ']'
    · subst bracket
      by_cases closes : c = ']'
      · subst closes
        rfl
      · simp [unbracketed, QuoteState.step, regionStep, plain rfl, closes]
    · by_cases closes : c = q <;> simp [unbracketed, QuoteState.step, regionStep, bracket, closes]

namespace Text

variable {sql : String}

/-- Until a bracket opens a region the scans are one. -/
theorem regions_eq_quotes (bracketless : (none, '[') ∉ quotes sql) : regions sql = quotes sql := by
  have steps (place : Option Char) (c : Char) (member : (place, c) ∈ quotes sql) :
      regionStep place c = QuoteState.step place c :=
    step_eq_regionStep fun opens => bracketless (opens ▸ member)
  have same := (trace_of_view id steps).1
  rwa [Prod.map_id, List.map_id] at same

/-- The scans are inside a region at the same places of the text exactly if no bracket stands where
it would open one. -/
theorem sameRegions_iff :
    (∀ front, front <+: sql.toList → (QuoteState.after none front).isSome = (regionAfter none front).isSome) ↔
      (none, '[') ∉ quotes sql := by
  constructor
  · intro same opens
    obtain ⟨front, behind, parts, before⟩ := mem_trace_iff.mp opens
    have outside : QuoteState.after none front = none := before
    have agrees := same front ⟨_, parts.symm⟩
    have behindBracket := same (front ++ ['[']) ⟨behind, by simp [parts]⟩
    rw [outside, Option.isSome_none, eq_comm, Option.isSome_eq_false_iff, Option.isNone_iff_eq_none] at agrees
    -- behind the bracket only one of the scans is inside a region
    rw [QuoteState.after_append, regionAfter_append, outside, agrees] at behindBracket
    cases behindBracket
  · rintro bracketless front ⟨behind, parts⟩
    have steps (place : Option Char) (c : Char) (member : (place, c) ∈ trace QuoteState.step none front) :
        regionStep place c = QuoteState.step place c := by
      refine step_eq_regionStep fun opens => bracketless ?_
      obtain ⟨before, between, cut, ends⟩ := mem_trace_iff.mp (opens ▸ member)
      exact mem_trace_iff.mpr ⟨before, between ++ behind, by simp [← parts, cut], ends⟩
    have ends : regionAfter none front = QuoteState.after none front := (trace_of_view id steps).2
    rw [ends]

/-- Where names in brackets hold no quote characters, the scan for placeholders only misses the
brackets. -/
theorem quotes_eq_map_regions (plain : ∀ c, (some ']', c) ∈ regions sql → isQuoteChar c = false) :
    quotes sql = (regions sql).map (Prod.map unbracketed id) := by
  have steps (place : Option Char) (c : Char) (member : (place, c) ∈ regions sql) :
      QuoteState.step (unbracketed place) c = unbracketed (regionStep place c) :=
    step_unbracketed fun inside => plain c (inside ▸ member)
  exact (trace_of_view unbracketed steps).1

/-- A question mark outside the regions of quote characters stands outside all regions or between
brackets. -/
theorem count_unbracketed (places : List (Option Char × Char)) :
    (places.map (Prod.map unbracketed id)).count (none, '?') =
      places.count (none, '?') + places.count (some ']', '?') := by
  induction places with
  | nil => rfl
  | cons place places inductionHypothesis =>
    obtain ⟨region, c⟩ := place
    rw [List.map_cons, List.count_cons, List.count_cons, List.count_cons, inductionHypothesis]
    cases region with
    | none => simp [unbracketed]; omega
    | some q =>
      by_cases bracket : q = ']'
      · simp [unbracketed, bracket]; omega
      · simp [unbracketed, bracket]

/-- What either scan reads of a text, and how far the two agree.  Placeholders are counted and
written out by one trace, keywords are read off the other.  The scans are inside a region at the
same places if and only if no bracket opens a region, and then their traces are one; if there are
names in brackets, and no quote character in them, the question marks in them are placeholders
too. -/
theorem quotes_regions (sql : String) (params : List Scalar) :
    (placeholderCount sql = (quotes sql).count (none, '?') ∧
      inlined sql params = String.ofList (fill (quotes sql) params) ∧
      keywords sql = ((regions sql).splitOnP isBreak).flatMap spelled) ∧
    ((∀ front, front <+: sql.toList →
        (QuoteState.after none front).isSome = (regionAfter none front).isSome) ↔
      (none, '[') ∉ quotes sql) ∧
    ((none, '[') ∉ quotes sql → quotes sql = regions sql) ∧
    ((∀ c, (some ']', c) ∈ regions sql → isQuoteChar c = false) →
      quotes sql = (regions sql).map (Prod.map unbracketed id) ∧
      placeholderCount sql = (regions sql).count (none, '?') + (regions sql).count (some ']', '?')) := by
  refine ⟨⟨placeholderCount_eq sql, inlined_eq sql params, keywords_eq sql⟩, sameRegions_iff,
    fun bracketless => (regions_eq_quotes bracketless).symm, fun plain => ?_⟩
  have same := quotes_eq_map_regions plain
  refine ⟨same, ?_⟩
  rw [placeholderCount_eq, same, count_unbracketed]

theorem quotes_regions_nested :
    (∀ c, (some ']', c) ∈ regions "SELECT [a?] FROM t WHERE b = ?" → isQuoteChar c = false) ∧
      placeholderCount "SELECT [a?] FROM t WHERE b = ?" = 1 + 1 := by
  have plain (c : Char) (member : (some ']', c) ∈ regions "SELECT [a?] FROM t WHERE b = ?") :
      isQuoteChar c = false := by
    have all : ∀ place ∈ regions "SELECT [a?] FROM t WHERE b = ?", place.1 = some ']' → isQuoteChar place.2 = false := by
      decide
    exact all _ member rfl
  exact ⟨plain, ((quotes_regions "SELECT [a?] FROM t WHERE b = ?" []).2.2.2 plain).2.trans (by decide)⟩

/-- The question mark in a name in brackets is counted, and takes the parameter of the one that
stands outside. -/
theorem quotes_regions_disagree :
    placeholderCount "SELECT [a?] FROM t WHERE b = ?" = 2 ∧
      (regions "SELECT [a?] FROM t WHERE b = ?").count (none, '?') = 1 ∧
      inlined "SELECT [a?] FROM t WHERE b = ?" [.int 1] = "SELECT [a1] FROM t WHERE b = ?" := by
  decide

end Text

end SqlAssembly
