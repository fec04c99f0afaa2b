import SqlAssembly.Proofs.Identifier.Named

/-! # Order specifications that are written and read again

An item of an ORDER BY list is read from a text and written with its direction.  What is written reads
as the same item again: a name between quotes is no name any more but a word as before, the direction
is always there the second time, and a text that is neither a name nor a name with a direction stays
as it is.

* `Dialect.quoteToken_quoteToken`, `Dialect.isWord_quoteToken` — a word that is quoted is a word, and is
  not quoted again.
* `OrderSpec.ofText_cases` — the items that a text can give.
* `OrderSpec.sql_stable` — what is written of a text, and of what was written of it.
-/

namespace SqlAssembly

open Text (IsWord)

/-! ## Words that are quoted -/

theorem isBlankChar_of_isNameChar {c : Char} (nameChar : isNameChar c = true) : Text.isBlankChar c = false := by
  -- letters, digits, the underscore and the dot lie between the space and the next blank
  have bounds : 46 ≤ c.toNat ∧ c.toNat ≤ 122 := by
    have both {low high : Nat} (within : (decide (low ≤ c.toNat) && decide (c.toNat ≤ high)) = true) :
        low ≤ c.toNat ∧ c.toNat ≤ high := by simpa using within
    have kinds : (((c.isUpper || c.isLower) || c.isDigit) || c == '_' || c == '.') = true := nameChar
    simp only [Bool.or_eq_true, beq_iff_eq] at kinds
    rcases kinds with (((upper | lower) | digit) | rfl) | rfl
    · have range : 65 ≤ c.toNat ∧ c.toNat ≤ 90 := of_decide_eq_true upper
      omega
    · have range : 97 ≤ c.toNat ∧ c.toNat ≤ 122 := both lower
      omega
    · have range : 48 ≤ c.toNat ∧ c.toNat ≤ 57 := both digit
      omega
    · decide
    · decide
  rw [← Bool.not_eq_true]
  intro blank
  simp [Text.isBlankChar, Text.inRanges, Text.blankRanges] at blank
  omega

theorem isWord_of_isIdentifier {name : String} (identifier : isIdentifier name = true) : IsWord name := by
  rw [isIdentifier, Bool.and_eq_true, Bool.and_eq_true, List.all_eq_true] at identifier
  refine ⟨?_, fun c member => isBlankChar_of_isNameChar (identifier.1.2 c member)⟩
  rintro rfl
  exact absurd identifier.1.1 (by simp)

namespace Dialect

variable {dialect : Dialect} {name token : String}

theorem visible_quoteSegment {segment : String} (visible : ∀ c ∈ segment.toList, Text.isBlankChar c = false) :
    ∀ c ∈ (dialect.quoteSegment segment).toList, Text.isBlankChar c = false := by
  have quote : Text.isBlankChar dialect.identifierQuote = false := by cases dialect <;> decide
  unfold quoteSegment
  split
  · exact visible
  · simp only [Text.doubleChar, String.toList_append, String.toList_singleton, String.toList_ofList,
      List.forall_mem_append, List.forall_mem_singleton, List.forall_mem_flatMap]
    refine ⟨⟨quote, fun c member => ?_⟩, quote⟩
    have kept := visible c member
    split <;> simp [kept, quote]

theorem isWord_quoteIdentifier (word : IsWord name) : IsWord (dialect.quoteIdentifier name) := by
  constructor
  · intro nothing
    by_cases bare : dialect = .sqlite ∧ '.' ∈ name.toList
    · rw [quoteIdentifier, if_pos (by simpa using ⟨bare.2, bare.1 ▸ rfl⟩)] at nothing
      exact word.nonempty nothing
    · -- something is read of a name between quotes
      have read := dialect.readIdentifier_whole fun lite dotted => bare ⟨lite, dotted⟩
      rw [nothing, readIdentifier] at read
      simp [readItems, readItem] at read
  · unfold quoteIdentifier
    split
    · exact word.visible
    · refine Text.forall_mem_intercalate (List.forall_mem_singleton.mpr (by decide)) fun text member => ?_
      obtain ⟨segment, present, rfl⟩ := List.mem_map.mp member
      obtain ⟨part, cut, rfl⟩ := List.mem_map.mp present
      refine visible_quoteSegment fun c inside => word.visible c ?_
      rw [String.toList_ofList] at inside
      exact (Text.mem_of_mem_splitOnP cut inside).1

theorem quoteToken_of_word (word : IsWord token) :
    dialect.quoteToken token = if isIdentifier token then dialect.quoteIdentifier token else token := by
  have spaceless : ' ' ∉ token.toList := fun member => absurd (word.visible ' ' member) (by decide)
  have whole : Text.front (token ++ "") = token := Text.front_append spaceless (by simp [Text.BeginsSpaced])
  rw [String.append_empty] at whole
  split
  · rename_i identifier
    rw [quoteToken, if_pos identifier]
  · rename_i unnamed
    refine quoteToken_of_not_leads fun leads => unnamed ?_
    rw [← whole]
    exact leads.1

theorem isWord_quoteToken (word : IsWord token) : IsWord (dialect.quoteToken token) := by
  rw [quoteToken_of_word word]
  split
  · exact isWord_quoteIdentifier word
  · exact word

/-- A word is quoted once. -/
theorem quoteToken_quoteToken (word : IsWord token) :
    dialect.quoteToken (dialect.quoteToken token) = dialect.quoteToken token := by
  rw [quoteToken_of_word (isWord_quoteToken word), quoteToken_of_word word]
  by_cases identifier : isIdentifier token = true
  · rw [if_pos identifier]
    by_cases bare : dialect = .sqlite ∧ '.' ∈ token.toList
    · rw [(quoteIdentifier_eq_self_iff identifier).mpr bare, if_pos identifier,
        (quoteIdentifier_eq_self_iff identifier).mpr bare]
    · have unnamed := isIdentifier_quoteIdentifier fun lite dotted => bare ⟨lite, dotted⟩
      rw [if_neg (by simp [unnamed])]
  · rw [if_neg identifier, if_neg identifier]

end Dialect

/-! ## Items -/

namespace Direction

theorem isWord_keyword (direction : Direction) : IsWord direction.keyword where
  nonempty := by cases direction <;> decide
  visible := by cases direction <;> simp [keyword] <;> decide

end Direction

namespace OrderSpec

variable {dialect : Dialect} {text name word : String} {direction : Direction}

theorem ofText_trim (text : String) : ofText (Text.trim text) = ofText text := by
  rw [ofText, Text.trim_trim, ofText]

theorem ofWords_cases (spec : String) :
    (∃ name direction, IsWord name ∧ ofWords spec = .column name direction) ∨ ofWords spec = .expression spec := by
  have wordOf {w : String} {ws : List String} (cut : Text.words spec = w :: ws) : IsWord w :=
    Text.isWord_of_mem_words (cut ▸ List.mem_cons_self)
  rw [ofWords]
  split
  · rename_i name cut
    exact .inl ⟨name, .ascending, wordOf cut, rfl⟩
  · rename_i name word cut
    split
    · rename_i direction _
      exact .inl ⟨name, direction, wordOf cut, rfl⟩
    · exact .inr rfl
  · exact .inr rfl

/-- A text gives a column whose name is one word, or it is an expression as it is, without the blanks
around it. -/
theorem ofText_cases (text : String) :
    (∃ name direction, IsWord name ∧ ofText text = .column name direction) ∨
      ofText text = .expression (Text.trim text) := by
  rw [ofText]
  split
  · rename_i name _
    split
    · rename_i identifier
      exact .inl ⟨_, .descending, isWord_of_isIdentifier identifier, rfl⟩
    · exact ofWords_cases _
  · exact ofWords_cases _

/-- A blank keeps a minus sign from making the text in front of it descend. -/
theorem ofText_of_blank (trimmed : Text.trim text = text) {c : Char} (member : c ∈ text.toList)
    (blank : Text.isBlankChar c = true) : ofText text = ofWords text := by
  rw [ofText, trimmed]
  split
  · rename_i name chars
    refine if_neg fun identifier => ?_
    have inside : c ∈ name := by
      rw [chars] at member
      refine (List.mem_cons.mp member).resolve_left ?_
      rintro rfl
      exact absurd blank (by decide)
    have visible := (isWord_of_isIdentifier identifier).visible c (by simpa using inside)
    rw [visible] at blank
    cases blank
  · rfl

/-- A word in another case is a word. -/
theorem isWord_of_asciiUpper {other : String} (upper : Text.asciiUpper word = other) (capitals : IsWord other) :
    IsWord word := by
  refine ⟨?_, fun c member => ?_⟩
  · rintro rfl
    exact capitals.nonempty upper.symm
  · have inside : c.toUpper ∈ other.toList := by
      rw [← upper, Text.asciiUpper, String.toList_ofList]
      exact List.mem_map_of_mem member
    have visible := capitals.visible _ inside
    rw [← Bool.not_eq_true]
    intro blank
    have same : c.toUpper = c := by
      rw [← Char.toNat_inj, Text.toNat_toUpper, if_neg]
      simp [Text.isBlankChar, Text.inRanges, Text.blankRanges] at blank
      omega
    rw [same, blank] at visible
    cases visible

/-- A direction is known by its word in any case. -/
theorem direction?_of_asciiUpper (upper : Text.asciiUpper word = direction.keyword) :
    direction? word = some direction := by
  have lower : Text.asciiLower word = Text.asciiLower direction.keyword := by
    rw [← Text.asciiLower_asciiUpper, upper]
  rw [direction?, lower]
  cases direction <;> rfl

theorem ofText_surrounded {before after : String} (front : Text.isBlank before = true)
    (rear : Text.isBlank after = true) : ofText (before ++ text ++ after) = ofText text := by
  rw [← ofText_trim, Text.trim_surrounded front rear, ofText_trim]

theorem ofText_name (identifier : isIdentifier name = true) : ofText name = .column name .ascending := by
  have word := isWord_of_isIdentifier identifier
  rw [ofText, Text.trim_word word]
  split
  · rename_i rest chars
    rw [isIdentifier, chars, Bool.and_eq_true, Bool.and_eq_true, List.all_cons, Bool.and_eq_true] at identifier
    exact absurd identifier.1.2.1 (by decide)
  · rw [ofWords, Text.words_word word]

theorem ofText_minus (identifier : isIdentifier name = true) :
    ofText ("-" ++ name) = .column name .descending := by
  have chars : ("-" ++ name).toList = '-' :: name.toList := by simp
  have word : IsWord ("-" ++ name) := by
    refine ⟨by simp, ?_⟩
    rw [chars, List.forall_mem_cons]
    exact ⟨by decide, (isWord_of_isIdentifier identifier).visible⟩
  rw [ofText, Text.trim_word word, chars]
  simp [identifier]

/-- A word, and behind it one that names a direction. -/
theorem ofText_directed {between : String} (first : IsWord name) (second : IsWord word)
    (nonempty : between ≠ "") (blank : Text.isBlank between = true) (named : direction? word = some direction) :
    ofText (name ++ between ++ word) = .column name direction := by
  obtain ⟨c, member⟩ := List.exists_mem_of_ne_nil between.toList fun nothing =>
    nonempty (String.toList_eq_nil_iff.mp nothing)
  have blankChar : Text.isBlankChar c = true := List.all_eq_true.mp blank c member
  rw [ofText_of_blank (Text.trim_between first second) (c := c) (by simp [member]) blankChar, ofWords,
    Text.words_pair first second nonempty blank]
  simp only [named]

/-- A column that is written reads as the column whose name is quoted. -/
theorem ofText_sql_column (word : IsWord name) :
    ofText ((OrderSpec.column name direction).sql dialect) = .column (dialect.quoteToken name) direction := by
  have named : direction? direction.keyword = some direction :=
    direction?_of_asciiUpper (by cases direction <;> rfl)
  exact ofText_directed (Dialect.isWord_quoteToken word) direction.isWord_keyword (by decide) (by decide) named

/-- **Order specifications are stable.**  What is written of a specification reads as one of which the same
is written.  A name with blanks around it is quoted and ascends, with a minus sign in front of it it
descends, and with a direction behind it, in any case and however many blanks apart, it has that one. -/
theorem sql_stable (dialect : Dialect) :
    (∀ text, (ofText ((ofText text).sql dialect)).sql dialect = (ofText text).sql dialect) ∧
      ∀ name before after, isIdentifier name = true → Text.isBlank before = true → Text.isBlank after = true →
        (ofText (before ++ name ++ after)).sql dialect = dialect.quoteIdentifier name ++ " ASC" ∧
        (ofText (before ++ ("-" ++ name) ++ after)).sql dialect = dialect.quoteIdentifier name ++ " DESC" ∧
        ∀ between word direction, between ≠ "" → Text.isBlank between = true →
          Text.asciiUpper word = Direction.keyword direction →
            (ofText (before ++ (name ++ between ++ word) ++ after)).sql dialect =
              dialect.quoteIdentifier name ++ " " ++ direction.keyword := by
  constructor
  · intro text
    rcases ofText_cases text with ⟨name, direction, word, column⟩ | expression
    · rw [column, ofText_sql_column word, sql, sql, Dialect.quoteToken_quoteToken word]
    · rw [expression, sql, ofText_trim, expression, sql]
  · intro name before after identifier front rear
    have word := isWord_of_isIdentifier identifier
    have quoted : dialect.quoteToken name = dialect.quoteIdentifier name := by
      rw [Dialect.quoteToken, if_pos identifier]
    refine ⟨?_, ?_, fun between second direction nonempty blank upper => ?_⟩
    · rw [ofText_surrounded front rear, ofText_name identifier, sql, quoted, String.append_assoc]
      rfl
    · rw [ofText_surrounded front rear, ofText_minus identifier, sql, quoted, String.append_assoc]
      rfl
    · have named := direction?_of_asciiUpper upper
      have wordToo := isWord_of_asciiUpper upper direction.isWord_keyword
      rw [ofText_surrounded front rear, ofText_directed word wordToo nonempty blank named, sql, quoted]

/-- A dotted name under three kinds of blanks, with a direction in mixed case; and a number behind a minus
sign, which is a column that ascends, the first time and again. -/
theorem sql_stable_mixed :
    let text := "\t\u3000public.name\u00a0\ndEsC "
    let written := "\x60public\x60.\x60name\x60 DESC"
    (ofText text).sql .mysql = written ∧ (ofText written).sql .mysql = written ∧
      (ofText " -7 ").sql .mysql = "-7 ASC" ∧ (ofText "-7 ASC").sql .mysql = "-7 ASC" := by
  intro text written
  obtain ⟨stable, named⟩ := sql_stable .mysql
  obtain ⟨-, -, directed⟩ :=
    named "public.name" "\t\u3000" " " (by decide) (by decide) (by decide)
  have first : (ofText text).sql .mysql = written :=
    (directed "\u00a0\n" "dEsC" .descending (by decide) (by decide) (by decide)).trans (by decide)
  have number : (ofText " -7 ").sql .mysql = "-7 ASC" := by decide
  exact ⟨first, first ▸ stable text, number, number ▸ stable " -7 "⟩

end OrderSpec

end SqlAssembly
