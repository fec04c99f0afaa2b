import SqlAssembly.Proofs.Condition.Lexeme
import SqlAssembly.Proofs.Keywords

/-! # The verb of a statement

Whether a statement gives rows is said by its verb: its first keyword, not counting comments, opening
parentheses and the tables of a WITH clause.  A change gives rows as well if it has a RETURNING
keyword.  The scan for keywords knows nothing of comments and of WITH clauses: it takes the words of
a comment for words of the statement, and WITH for a verb that gives rows.

* `tokens` — what the text of a statement is made of.
* `verb?`, `givesRows` — the verb of a statement, and what it says.
* `keywords_eq_spoken` — which words the scan for keywords reads.
* `returnsRows_iff_givesRows` — when its answer is that of the verb.
-/

namespace SqlAssembly.StatementText

open Condition (isWordChar)

/-! ## Tokens -/

/-- What the text of a statement is made of. -/
inductive Token where
  /-- A name, a number or a keyword. -/
  | word (letters : List Char)
  /-- A quoted text or identifier. -/
  | quoted
  | comment (content : List Char)
  | mark (c : Char)
  deriving DecidableEq, Repr

/-- Where a reader stands, with what it has read of a word or a comment. -/
inductive Place where
  | outside (word : List Char)
  | region (closing : Char)
  | line (content : List Char)
  | block (content : List Char)

def finishedWord (letters : List Char) : List Token :=
  if letters.isEmpty then [] else [.word letters]

/-- The tokens of a list of characters.  A comment starts with two dashes and ends with its line, or
it stands between `/*` and the next `*/`. -/
def tokensFrom : Place → List Char → List Token
  | .outside word, [] => finishedWord word
  | .region _, [] => [.quoted]
  | .line content, [] => [.comment content]
  | .block content, [] => [.comment content]
  | .region closing, c :: cs =>
    if c == closing then .quoted :: tokensFrom (.outside []) cs else tokensFrom (.region closing) cs
  | .line content, c :: cs =>
    if c == '\n' then .comment content :: tokensFrom (.outside []) cs
    else tokensFrom (.line (content ++ [c])) cs
  | .block content, '*' :: '/' :: cs => .comment content :: tokensFrom (.outside []) cs
  | .block content, c :: cs => tokensFrom (.block (content ++ [c])) cs
  | .outside word, '-' :: '-' :: cs => finishedWord word ++ tokensFrom (.line []) cs
  | .outside word, '/' :: '*' :: cs => finishedWord word ++ tokensFrom (.block []) cs
  | .outside word, c :: cs =>
    if isWordChar c then tokensFrom (.outside (word ++ [c])) cs
    else
      match closingChar? c with
      | some closing => finishedWord word ++ tokensFrom (.region closing) cs
      | none => finishedWord word ++ .mark c :: tokensFrom (.outside []) cs

def tokens (sql : String) : List Token := tokensFrom (.outside []) sql.toList

/-! ## Verbs -/

/-- The word that a token is, in upper case. -/
def Token.word? : Token → Option String
  | .word letters => some (String.ofList (letters.map Char.toUpper))
  | _ => none

def firstWord? (ts : List Token) : Option String := ts.findSome? Token.word?

/-- The verb behind the tables of a WITH clause: the first word that follows a closing parenthesis
outside of all others, unless it is the AS between the columns of a table and its statement.  A comma
starts another table, and what stands in parentheses right behind them is the statement. -/
def tableVerb? : (depth : Nat) → (closed : Bool) → List Token → Option String
  | _, _, [] => none
  | 0, true, .mark '(' :: ts => firstWord? ts
  | depth, _, .mark '(' :: ts => tableVerb? (depth + 1) false ts
  | depth + 1, _, .mark ')' :: ts => tableVerb? depth true ts
  | 0, _, .mark ',' :: ts => tableVerb? 0 false ts
  | 0, closed, .word letters :: ts =>
    if closed && (Token.word letters).word? ≠ some "AS" then (Token.word letters).word?
    else tableVerb? 0 false ts
  | depth, closed, _ :: ts => tableVerb? depth closed ts

/-- The main verb of a statement. -/
def verb? (ts : List Token) : Option String :=
  if firstWord? ts = some "WITH" then tableVerb? 0 false (ts.dropWhile (·.word?.isNone)).tail
  else firstWord? ts

/-- The verbs that read. -/
def readingVerbs : List String := ["SELECT", "PRAGMA", "VALUES", "EXPLAIN"]

/-- Whether a statement gives rows: its verb reads, or it asks for the changed rows. -/
def givesRows (sql : String) : Bool :=
  (verb? (tokens sql)).any readingVerbs.contains || (tokens sql).any (·.word? == some "RETURNING")

example : verb? (tokens "WITH RECURSIVE t(a) AS (SELECT 1), \"u\" AS (VALUES (2)) DELETE FROM v") =
    some "DELETE" := by
  decide +kernel

example : verb? (tokens "-- it's old\n( /* ( */ SELECT 1)") = some "SELECT" := by
  decide +kernel

/-! ## The words that a scan for keywords reads -/

/-- What a scan for keywords reads of a token. -/
def Token.spoken : Token → List String
  | .word letters => keywordsFrom none [] letters
  | .quoted => []
  | .comment content => keywordsFrom none [] content
  | .mark _ => []

def spoken (ts : List Token) : List String := ts.flatMap Token.spoken

/-- The character that would close the region which a comment leaves open, if it leaves one open. -/
def Token.open? : Token → Option Char
  | .comment content => regionAfter none content
  | _ => none

def CommentsClosed (ts : List Token) : Prop := ∀ t ∈ ts, t.open? = none

theorem closingChar?_of_isWordChar {c : Char} (inWord : isWordChar c = true) : closingChar? c = none := by
  have unquoted : isQuoteChar c = false := by
    rw [← Bool.not_eq_true]
    intro quote
    simp only [isQuoteChar, Bool.or_eq_true, beq_iff_eq] at quote
    rcases quote with (rfl | rfl) | rfl <;> cases inWord
  have bracket : ¬(c == '[') = true := by
    intro bracket
    rw [beq_iff_eq] at bracket
    subst bracket
    cases inWord
  rw [closingChar?, if_neg (by simp [unquoted]), if_neg bracket]

theorem spoken_finishedWord (word : List Char) :
    spoken (finishedWord word) = keywordsFrom none [] word := by
  unfold finishedWord
  split
  · rename_i nothing
    rw [List.isEmpty_iff.mp nothing]
    rfl
  · simp [spoken, Token.spoken]

theorem spoken_append (ts ts' : List Token) : spoken (ts ++ ts') = spoken ts ++ spoken ts' :=
  List.flatMap_append

theorem CommentsClosed.of_subset {ts ts' : List Token} (closed : CommentsClosed ts) (part : ts' ⊆ ts) :
    CommentsClosed ts' := fun t member => closed t (part member)

/-- A character that belongs to no word ends the words in front of it. -/
theorem keywordsFrom_border {read : List Char} (closed : regionAfter none read = none) {c : Char}
    (outside : isKeywordChar c = false) (cs : List Char) :
    keywordsFrom none [] (read ++ c :: cs) =
      keywordsFrom none [] read ++ keywordsFrom (closingChar? c) [] cs := by
  have border : startsWord (c :: cs) = false := outside
  have nothing : finishedKeyword [] = [] := rfl
  rw [keywordsFrom_append (.inl rfl) (.inr border), closed]
  simp only [keywordsFrom, outside, nothing, Bool.false_eq_true, if_false, List.nil_append]

/-- The characters that a reader at some place has read, but has not made into a token. -/
def Place.pending : Place → List Char
  | .outside word => word
  | .region _ => []
  | .line content => content
  | .block content => content

def Place.closing? : Place → Option Char
  | .region closing => some closing
  | _ => none

/-- A word that is read has characters of words only. -/
def Place.IsProper : Place → Prop
  | .outside word => ∀ c ∈ word, isWordChar c = true
  | _ => True

theorem regionAfter_of_word {word : List Char} (proper : (Place.outside word).IsProper) :
    regionAfter none word = none :=
  regionAfter_of_closingChar? fun c member => closingChar?_of_isWordChar (proper c member)

theorem Place.IsProper.append {word : List Char} (proper : (Place.outside word).IsProper) {c : Char}
    (inWord : isWordChar c = true) : (Place.outside (word ++ [c])).IsProper := by
  intro x member
  rcases List.mem_append.mp member with before | last
  · exact proper x before
  · rw [List.mem_singleton.mp last]
    exact inWord

theorem isKeywordChar_of_isWordChar {c : Char} (outside : ¬isWordChar c = true) :
    isKeywordChar c = false := by
  rw [← Bool.not_eq_true]
  intro inWord
  simp only [isKeywordChar, Bool.or_eq_true] at inWord
  apply outside
  rcases inWord with letter | underscore
  · simp [isWordChar, letter]
  · simp [isWordChar, underscore]

/-- A scan for keywords reads the words of a text token by token, those of comments included. -/
theorem keywordsFrom_eq_spoken (place : Place) (cs : List Char) (proper : place.IsProper)
    (closed : CommentsClosed (tokensFrom place cs)) :
    keywordsFrom place.closing? [] (place.pending ++ cs) = spoken (tokensFrom place cs) := by
  fun_induction tokensFrom place cs with
  | case1 word => rw [List.append_nil, spoken_finishedWord]; rfl
  | case2 => rfl
  | case3 content | case4 content => simp [spoken, Token.spoken, Place.pending, Place.closing?]
  | case5 closing c cs closes inductionHypothesis =>
    have later := inductionHypothesis nofun (closed.of_subset (List.subset_cons_self _ _))
    have step : keywordsFrom (some closing) [] (c :: cs) = keywordsFrom none [] cs := by
      rw [keywordsFrom, if_pos closes]
    exact step.trans later
  | case6 closing c cs open_ inductionHypothesis =>
    have later := inductionHypothesis trivial closed
    have step : keywordsFrom (some closing) [] (c :: cs) = keywordsFrom (some closing) [] cs := by
      rw [keywordsFrom, if_neg open_]
    exact step.trans later
  | case7 content c cs ends inductionHypothesis =>
    obtain rfl : c = '\n' := by simpa using ends
    have later := inductionHypothesis nofun (closed.of_subset (List.subset_cons_self _ _))
    have border := keywordsFrom_border (closed _ List.mem_cons_self) (c := '\n') rfl cs
    exact border.trans (congrArg _ later)
  | case9 content cs inductionHypothesis =>
    have later := inductionHypothesis nofun (closed.of_subset (List.subset_cons_self _ _))
    have border := keywordsFrom_border (closed _ List.mem_cons_self) (c := '*') rfl ('/' :: cs)
    exact border.trans (congrArg _ later)
  | case8 content c cs goesOn inductionHypothesis | case10 content c cs goesOn inductionHypothesis =>
    have later := inductionHypothesis trivial closed
    simpa [Place.pending, Place.closing?] using later
  | case11 word cs inductionHypothesis =>
    have later := inductionHypothesis trivial (closed.of_subset (List.subset_append_right _ _))
    have border := keywordsFrom_border (regionAfter_of_word proper) (c := '-') rfl ('-' :: cs)
    rw [spoken_append, spoken_finishedWord]
    exact border.trans (congrArg _ later)
  | case12 word cs inductionHypothesis =>
    have later := inductionHypothesis trivial (closed.of_subset (List.subset_append_right _ _))
    have border := keywordsFrom_border (regionAfter_of_word proper) (c := '/') rfl ('*' :: cs)
    rw [spoken_append, spoken_finishedWord]
    exact border.trans (congrArg _ later)
  | case13 word c cs _ _ inWord inductionHypothesis =>
    have later := inductionHypothesis (proper.append inWord) closed
    simpa [Place.pending, Place.closing?] using later
  | case14 word c cs _ _ outside closing opens inductionHypothesis =>
    have later := inductionHypothesis trivial (closed.of_subset (List.subset_append_right _ _))
    have border := keywordsFrom_border (regionAfter_of_word proper) (isKeywordChar_of_isWordChar outside) cs
    rw [opens] at border
    rw [spoken_append, spoken_finishedWord]
    exact border.trans (congrArg _ later)
  | case15 word c cs _ _ outside opens inductionHypothesis =>
    have later := inductionHypothesis nofun
      (closed.of_subset (List.Subset.trans (List.subset_cons_self _ _) (List.subset_append_right _ _)))
    have border := keywordsFrom_border (regionAfter_of_word proper) (isKeywordChar_of_isWordChar outside) cs
    rw [opens] at border
    rw [spoken_append, spoken_finishedWord]
    exact border.trans (congrArg _ later)

theorem keywords_eq_spoken {sql : String} (closed : CommentsClosed (tokens sql)) :
    keywords sql = spoken (tokens sql) :=
  keywordsFrom_eq_spoken (.outside []) sql.toList nofun closed

/-! ## Words of comments -/

/-- A word that a scan for keywords reads as a whole: it has ASCII letters, digits and underscores
only. -/
def Token.isBareWord : Token → Bool
  | .word letters => !letters.isEmpty && letters.all isKeywordChar
  | _ => false

/-- Nothing in front of the first bare word is read as a word, and RETURNING is not read anywhere but
in a word of its own. -/
structure IsClear (ts : List Token) : Prop where
  front : ∀ t ∈ ts.takeWhile (!·.isBareWord), t.word? = none ∧ t.spoken = []
  quiet : ∀ t ∈ ts, t.isBareWord = false → "RETURNING" ∉ t.spoken

theorem keywordsFrom_of_word {letters : List Char} (bare : ∀ c ∈ letters, isKeywordChar c = true)
    (word : List Char) :
    keywordsFrom none word letters = finishedKeyword ((letters.map Char.toUpper).reverse ++ word) := by
  induction letters generalizing word with
  | nil => rfl
  | cons c letters inductionHypothesis =>
    obtain ⟨first, others⟩ := List.forall_mem_cons.mp bare
    rw [keywordsFrom, if_pos first, inductionHypothesis others]
    simp

theorem Token.spoken_of_isBareWord {t : Token} (bare : t.isBareWord = true) :
    ∃ word, t.word? = some word ∧ t.spoken = [word] := by
  cases t with
  | word letters =>
    simp only [isBareWord, Bool.and_eq_true, Bool.not_eq_true', List.all_eq_true] at bare
    obtain ⟨nonempty, bare⟩ := bare
    refine ⟨_, rfl, ?_⟩
    simp [spoken, keywordsFrom_of_word bare, finishedKeyword, List.isEmpty_eq_false_iff.mp nonempty]
  | quoted | comment | mark => cases bare

theorem firstWord?_eq_head?_spoken {ts : List Token}
    (front : ∀ t ∈ ts.takeWhile (!·.isBareWord), t.word? = none ∧ t.spoken = []) :
    firstWord? ts = (spoken ts).head? := by
  induction ts with
  | nil => rfl
  | cons t ts inductionHypothesis =>
    have split : spoken (t :: ts) = t.spoken ++ spoken ts := rfl
    rw [firstWord?, List.findSome?_cons, split]
    by_cases bare : t.isBareWord = true
    · obtain ⟨word, read, said⟩ := Token.spoken_of_isBareWord bare
      rw [read, said]
      rfl
    · rw [List.takeWhile_cons_of_pos (by simpa using bare), List.forall_mem_cons] at front
      obtain ⟨⟨unread, unsaid⟩, front⟩ := front
      rw [unread, unsaid]
      exact inductionHypothesis front

/-- A character whose capital belongs to a word belongs to one itself. -/
theorem isKeywordChar_of_toUpper {c : Char} (upper : isKeywordChar c.toUpper = true) :
    isKeywordChar c = true := by
  by_cases lower : c.isLower = true
  · have letter : c.isAlpha = true := (Bool.or_eq_true _ _).mpr (.inr lower)
    simp [isKeywordChar, Char.isAlphanum, letter]
  · have same : c.toUpper = c := by
      refine dif_neg fun small => lower ?_
      exact (Bool.and_eq_true _ _).mpr ⟨decide_eq_true small.1, decide_eq_true small.2⟩
    rwa [same] at upper

theorem Token.isBareWord_of_returning {t : Token} (read : t.word? = some "RETURNING") :
    t.isBareWord = true := by
  cases t with
  | word letters =>
    have upper : letters.map Char.toUpper = "RETURNING".toList := by
      have same := congrArg String.toList (Option.some.inj read)
      rwa [String.toList_ofList] at same
    simp only [isBareWord, Bool.and_eq_true, Bool.not_eq_true', List.all_eq_true]
    constructor
    · cases letters with
      | nil => cases upper
      | cons => rfl
    · intro c member
      apply isKeywordChar_of_toUpper
      have inside : c.toUpper ∈ "RETURNING".toList := upper ▸ List.mem_map_of_mem member
      have bare : "RETURNING".toList.all isKeywordChar = true := by decide
      exact List.all_eq_true.mp bare _ inside
  | quoted | comment | mark => cases read

/-- Where RETURNING is read in words of its own only, it is read exactly if it is a word. -/
theorem mem_spoken_returning_iff {ts : List Token}
    (quiet : ∀ t ∈ ts, t.isBareWord = false → "RETURNING" ∉ t.spoken) :
    "RETURNING" ∈ spoken ts ↔ ts.any (·.word? == some "RETURNING") = true := by
  simp only [spoken, List.mem_flatMap, List.any_eq_true, beq_iff_eq]
  refine exists_congr fun t => and_congr_right fun member => ?_
  by_cases bare : t.isBareWord = true
  · obtain ⟨word, read, said⟩ := Token.spoken_of_isBareWord bare
    rw [read, said, List.mem_singleton, Option.some.injEq, eq_comm]
  · constructor
    · intro said
      exact absurd said (quiet t member (Bool.not_eq_true _ ▸ bare))
    · intro read
      exact absurd (Token.isBareWord_of_returning read) bare

theorem verb?_of_ne_with {ts : List Token} (other : firstWord? ts ≠ some "WITH") :
    verb? ts = firstWord? ts :=
  if_neg other

/-- **Comments speak, and WITH reads.**  A statement whose comments leave no quoted region open is
taken to give rows by its words, those of its comments included.  Where it reads clearly, this is what
its verb says, except that every statement with a WITH clause is taken to give rows. -/
theorem returnsRows_iff_givesRows {sql : String} (closed : CommentsClosed (tokens sql)) :
    (returnsRows sql = true ↔
      (∃ word, (spoken (tokens sql)).head? = some word ∧ word ∈ rowVerbs) ∨
        "RETURNING" ∈ spoken (tokens sql)) ∧
    (IsClear (tokens sql) →
      (returnsRows sql = true ↔ givesRows sql = true ∨ firstWord? (tokens sql) = some "WITH")) := by
  have said : returnsRows sql = true ↔
      (∃ word, (spoken (tokens sql)).head? = some word ∧ word ∈ rowVerbs) ∨
        "RETURNING" ∈ spoken (tokens sql) := by
    simp [returnsRows, keywords_eq_spoken closed, Option.any_eq_true]
  refine ⟨said, fun clear => said.trans ?_⟩
  rw [← firstWord?_eq_head?_spoken clear.front, mem_spoken_returning_iff clear.quiet, givesRows,
    Bool.or_eq_true]
  by_cases tables : firstWord? (tokens sql) = some "WITH"
  · have reads : "WITH" ∈ rowVerbs := by decide
    exact iff_of_true (.inl ⟨_, tables, reads⟩) (.inr tables)
  · have verb : (∃ word, firstWord? (tokens sql) = some word ∧ word ∈ rowVerbs) ↔
        (verb? (tokens sql)).any readingVerbs.contains = true := by
      rw [verb?_of_ne_with tables, Option.any_eq_true]
      refine exists_congr fun word => and_congr_right fun first => ?_
      have other : word ≠ "WITH" := by
        rintro rfl
        exact tables first
      simp [rowVerbs, readingVerbs, other]
    rw [verb, or_iff_left tables]

/-- A statement that reads, with a comment behind its tables. -/
theorem returnsRows_iff_givesRows_tables :
    let sql := "WITH t(a) AS (SELECT 1) -- of old\nSELECT a FROM t"
    CommentsClosed (tokens sql) ∧ IsClear (tokens sql) ∧ givesRows sql = true ∧
      (returnsRows sql = true ↔ givesRows sql = true ∨ firstWord? (tokens sql) = some "WITH") := by
  intro sql
  have closed : CommentsClosed (tokens sql) := by
    unfold CommentsClosed
    decide +kernel
  have clear : IsClear (tokens sql) := by
    constructor <;> decide +kernel
  exact ⟨closed, clear, by decide +kernel, (returnsRows_iff_givesRows closed).2 clear⟩

/-- A comment hides the verb of a statement that reads, and the tables of a change make it read. -/
theorem returnsRows_misses_verb :
    (givesRows "/* latest */ SELECT 1" = true ∧ returnsRows "/* latest */ SELECT 1" = false) ∧
      givesRows "WITH t AS (SELECT 1) DELETE FROM u" = false ∧
        returnsRows "WITH t AS (SELECT 1) DELETE FROM u" = true := by
  decide +kernel

end SqlAssembly.StatementText
