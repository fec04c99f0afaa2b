import Mathlib.Data.List.Induction
import SqlAssembly.Keywords
import SqlAssembly.Proofs.Text.Marks

/-! # Scanning for keywords

A scan for keywords reads two texts in a row one after the other, unless a word reaches across the
border between them.  A text is *silent* when a scan leaves it outside all quoted regions and finds
no keyword in it that asks for rows.  Texts that are silent stay silent beside each other, as long
as something that belongs to no word stands between them.

* `keywordsFrom_append`, `keywords_append` — keywords of texts in a row.
* `keywordsFrom_doubled` — a quoted region has no keywords.
* `IsSilent` — texts that ask for no rows.
* `IsSilent.append`, `IsSilent.between`, `IsSilent.intercalate` — silent texts beside each other.
-/

namespace SqlAssembly

/-! ## Regions -/

/-- The region a scan stands in after one more character, by the character that closes it. -/
def regionStep : Option Char → Char → Option Char
  | some q, c => if c == q then none else some q
  | none, c => closingChar? c

/-- The region a scan stands in after a list of characters. -/
def regionAfter (region : Option Char) (cs : List Char) : Option Char := cs.foldl regionStep region

theorem regionAfter_append (region : Option Char) (xs ys : List Char) :
    regionAfter region (xs ++ ys) = regionAfter (regionAfter region xs) ys := List.foldl_append

theorem closingChar?_of_isKeywordChar {c : Char} (inWord : isKeywordChar c = true) :
    closingChar? c = none := by
  unfold closingChar?
  split
  · rename_i quote
    simp only [isQuoteChar, Bool.or_eq_true, beq_iff_eq] at quote
    obtain (rfl | rfl) | rfl := quote <;> cases inWord
  · split
    · rename_i bracket
      rw [beq_iff_eq] at bracket
      subst bracket
      cases inWord
    · rfl

theorem isKeywordChar_of_closingChar? {c q : Char} (opens : closingChar? c = some q) :
    isKeywordChar c = false := by
  rw [← Bool.not_eq_true]
  intro inWord
  rw [closingChar?_of_isKeywordChar inWord] at opens
  cases opens

theorem regionAfter_of_closingChar? {cs : List Char} (opensNone : ∀ c ∈ cs, closingChar? c = none) :
    regionAfter none cs = none := by
  induction cs with
  | nil => rfl
  | cons c cs inductionHypothesis =>
    obtain ⟨first, others⟩ := List.forall_mem_cons.mp opensNone
    have stays : regionStep none c = none := first
    rw [regionAfter, List.foldl_cons, stays]
    exact inductionHypothesis others

/-! ## Keywords of texts in a row -/

/-- Whether a list of characters starts with one of a word. -/
def startsWord (cs : List Char) : Bool := cs.head?.any isKeywordChar

/-- Whether a list of characters ends with one of a word. -/
def endsWord (cs : List Char) : Bool := cs.getLast?.any isKeywordChar

theorem keywordsFrom_of_startsWord {cs : List Char} (border : startsWord cs = false)
    (word : List Char) :
    keywordsFrom none word cs = finishedKeyword word ++ keywordsFrom none [] cs := by
  have nothing : finishedKeyword [] = [] := rfl
  cases cs with
  | nil => rw [keywordsFrom, keywordsFrom, nothing, List.append_nil]
  | cons c cs =>
    have outside : ¬ isKeywordChar c = true := Bool.not_eq_true _ ▸ border
    rw [keywordsFrom, keywordsFrom, if_neg outside, if_neg outside, nothing, List.nil_append]

/-- A word that is being read goes on behind the border only where the first text leaves the scan
outside all regions and the second one starts with a character of a word. -/
theorem keywordsFrom_append {region : Option Char} {word xs ys : List Char}
    (proper : region = none ∨ word = [])
    (border : regionAfter region xs ≠ none ∨ startsWord ys = false) :
    keywordsFrom region word (xs ++ ys) =
      keywordsFrom region word xs ++ keywordsFrom (regionAfter region xs) [] ys := by
  induction xs generalizing region word with
  | nil =>
    cases region with
    | some q =>
      obtain rfl : word = [] := proper.resolve_left nofun
      rfl
    | none => exact keywordsFrom_of_startsWord (border.resolve_left fun inside => inside rfl) word
  | cons c xs inductionHypothesis =>
    cases region with
    | some q =>
      obtain rfl : word = [] := proper.resolve_left nofun
      exact inductionHypothesis (.inr rfl) border
    | none =>
      have after : regionAfter none (c :: xs) = regionAfter (closingChar? c) xs := rfl
      rw [after] at border ⊢
      rw [List.cons_append, keywordsFrom, keywordsFrom]
      split
      · rename_i inWord
        rw [closingChar?_of_isKeywordChar inWord] at border ⊢
        exact inductionHypothesis (.inl rfl) border
      · rw [inductionHypothesis (.inr rfl) border, List.append_assoc]

theorem keywords_append {a b : String} (closed : regionAfter none a.toList = none)
    (border : endsWord a.toList = false ∨ startsWord b.toList = false) :
    keywords (a ++ b) = keywords a ++ keywords b := by
  rw [keywords, keywords, keywords, String.toList_append]
  generalize a.toList = xs at closed border ⊢
  generalize b.toList = ys at border ⊢
  rcases border with ends | starts
  · cases xs using List.reverseRecOn with
    | nil => rfl
    | append_singleton xs c =>
      -- the last character is read on its own, from the region in front of it
      have outside : isKeywordChar c = false := by simpa [endsWord] using ends
      have border (ds : List Char) : startsWord (c :: ds) = false := outside
      have nothing : finishedKeyword [] = [] := rfl
      rw [regionAfter_append] at closed
      rw [List.append_assoc, List.singleton_append,
        keywordsFrom_append (.inl rfl) (.inr (border ys)),
        keywordsFrom_append (.inl rfl) (.inr (border [])), List.append_assoc]
      congr 1
      cases region : regionAfter none xs with
      | some q =>
        rw [region] at closed
        have closes : (if c == q then none else some q) = none := closed
        simp only [keywordsFrom, closes, nothing, List.nil_append]
      | none =>
        rw [region] at closed
        have stays : closingChar? c = none := closed
        simp only [keywordsFrom, outside, stays, nothing, List.nil_append, Bool.false_eq_true, if_false]
  · rw [keywordsFrom_append (.inl rfl) (.inr starts), closed]

/-! ## Keywords of particular texts -/

theorem closingChar?_of_isQuoteChar {q : Char} (quote : isQuoteChar q = true) : closingChar? q = some q :=
  if_pos quote

theorem isKeywordChar_of_isQuoteChar {q : Char} (quote : isQuoteChar q = true) :
    isKeywordChar q = false :=
  isKeywordChar_of_closingChar? (closingChar?_of_isQuoteChar quote)

/-- A doubled quote closes its region and opens it again, and the scan reads nothing on the way. -/
theorem keywordsFrom_doubled {q : Char} (quote : isQuoteChar q = true) (cs rest : List Char) :
    keywordsFrom (some q) [] ((cs.flatMap fun c => if c == q then [q, q] else [c]) ++ q :: rest) =
      keywordsFrom none [] rest := by
  have outside := isKeywordChar_of_isQuoteChar quote
  induction cs with
  | nil => simp [keywordsFrom]
  | cons c cs inductionHypothesis =>
    rw [List.flatMap_cons, List.append_assoc]
    by_cases same : (c == q) = true
    · rw [if_pos same]
      simpa [keywordsFrom, outside, closingChar?_of_isQuoteChar quote, finishedKeyword]
        using inductionHypothesis
    · rw [if_neg same]
      simpa [keywordsFrom, same] using inductionHypothesis

theorem regionAfter_doubled {q : Char} (quote : isQuoteChar q = true) (cs : List Char) :
    regionAfter (some q) (cs.flatMap fun c => if c == q then [q, q] else [c]) = some q := by
  induction cs with
  | nil => rfl
  | cons c cs inductionHypothesis =>
    rw [List.flatMap_cons, regionAfter_append]
    by_cases same : (c == q) = true
    · have reopened : regionAfter (some q) [q, q] = some q := by
        simp [regionAfter, regionStep, closingChar?_of_isQuoteChar quote]
      rw [if_pos same, reopened, inductionHypothesis]
    · have inside : regionAfter (some q) [c] = some q := by simp [regionAfter, regionStep, same]
      rw [if_neg same, inside, inductionHypothesis]

/-- Every character of a keyword comes from the text, in upper case. -/
theorem mem_of_mem_keywordsFrom {region : Option Char} {word cs : List Char} {keyword : String}
    {c : Char} (found : keyword ∈ keywordsFrom region word cs) (member : c ∈ keyword.toList) :
    c ∈ word ∨ c ∈ cs.map Char.toUpper := by
  have finished {word : List Char} (found : keyword ∈ finishedKeyword word) : c ∈ word := by
    unfold finishedKeyword at found
    split at found
    · cases found
    · rw [List.mem_singleton.mp found] at member
      simpa using member
  induction cs generalizing region word with
  | nil =>
    rw [keywordsFrom] at found
    exact .inl (finished found)
  | cons d cs inductionHypothesis =>
    cases region with
    | some q =>
      rw [keywordsFrom] at found
      exact (inductionHypothesis found).imp_right (List.mem_cons_of_mem _)
    | none =>
      rw [keywordsFrom] at found
      split at found
      · obtain new | later := inductionHypothesis found
        · obtain rfl | old := List.mem_cons.mp new
          · exact .inr List.mem_cons_self
          · exact .inl old
        · exact .inr (List.mem_cons_of_mem _ later)
      · obtain ended | later := List.mem_append.mp found
        · exact .inl (finished ended)
        · have new := (inductionHypothesis later).resolve_left List.not_mem_nil
          exact .inr (List.mem_cons_of_mem _ new)

/-! ## Silent texts -/

/-- The text ends outside all regions and does not ask for the changed rows. -/
structure IsSilent (text : String) : Prop where
  closed : regionAfter none text.toList = none
  quiet : "RETURNING" ∉ keywords text

instance (text : String) : Decidable (IsSilent text) :=
  decidable_of_iff (regionAfter none text.toList = none ∧ "RETURNING" ∉ keywords text)
    ⟨fun both => ⟨both.1, both.2⟩, fun silent => ⟨silent.closed, silent.quiet⟩⟩

/-- A silent text that may stand in front of any other one. -/
structure IsLead (lead : String) : Prop where
  silent : IsSilent lead
  ends : endsWord lead.toList = false

instance (lead : String) : Decidable (IsLead lead) :=
  decidable_of_iff (IsSilent lead ∧ endsWord lead.toList = false)
    ⟨fun both => ⟨both.1, both.2⟩, fun lead => ⟨lead.silent, lead.ends⟩⟩

/-- A silent text that may stand behind any other one. -/
structure IsTail (tail : String) : Prop where
  silent : IsSilent tail
  starts : startsWord tail.toList = false

instance (tail : String) : Decidable (IsTail tail) :=
  decidable_of_iff (IsSilent tail ∧ startsWord tail.toList = false)
    ⟨fun both => ⟨both.1, both.2⟩, fun tail => ⟨tail.silent, tail.starts⟩⟩

/-- A silent text that may stand between any two. -/
structure IsSeparator (separator : String) : Prop where
  lead : IsLead separator
  tail : IsTail separator
  nonempty : separator ≠ ""

instance (separator : String) : Decidable (IsSeparator separator) :=
  decidable_of_iff (IsLead separator ∧ IsTail separator ∧ separator ≠ "")
    ⟨fun all => ⟨all.1, all.2.1, all.2.2⟩,
      fun separator => ⟨separator.lead, separator.tail, separator.nonempty⟩⟩

namespace IsSilent

variable {a b : String}

theorem append (left : IsSilent a) (right : IsSilent b)
    (border : endsWord a.toList = false ∨ startsWord b.toList = false) : IsSilent (a ++ b) where
  closed := by rw [String.toList_append, regionAfter_append, left.closed, right.closed]
  quiet := by
    rw [keywords_append left.closed border, List.mem_append]
    exact fun found => found.elim left.quiet right.quiet

/-- What is silent beside something closed is so by itself. -/
theorem of_append (silent : IsSilent (a ++ b)) (closed : regionAfter none a.toList = none)
    (border : endsWord a.toList = false ∨ startsWord b.toList = false) : IsSilent a ∧ IsSilent b := by
  have closes := silent.closed
  have quiet := silent.quiet
  rw [String.toList_append, regionAfter_append, closed] at closes
  rw [keywords_append closed border, List.mem_append, not_or] at quiet
  exact ⟨⟨closed, quiet.1⟩, ⟨closes, quiet.2⟩⟩

theorem behind {lead : String} (silent : IsSilent a) (front : IsLead lead) : IsSilent (lead ++ a) :=
  front.silent.append silent (.inl front.ends)

theorem before {tail : String} (silent : IsSilent a) (back : IsTail tail) : IsSilent (a ++ tail) :=
  silent.append back.silent (.inr back.starts)

theorem between {separator : String} (left : IsSilent a) (apart : IsSeparator separator)
    (right : IsSilent b) : IsSilent (a ++ separator ++ b) := by
  refine (left.before apart.tail).append right (.inl ?_)
  have nonempty : separator.toList ≠ [] := fun empty => apart.nonempty (String.toList_eq_nil_iff.mp empty)
  obtain ⟨last, found⟩ := Option.isSome_iff_exists.mp (List.getLast?_isSome.mpr nonempty)
  have ends := apart.lead.ends
  rw [endsWord, found] at ends
  rw [endsWord, String.toList_append, List.getLast?_append, found]
  exact ends

theorem intercalate {separator : String} {texts : List String} (apart : IsSeparator separator)
    (silent : ∀ text ∈ texts, IsSilent text) : IsSilent (separator.intercalate texts) := by
  induction texts with
  | nil =>
    rw [String.intercalate_nil]
    decide
  | cons text texts inductionHypothesis =>
    obtain ⟨first, others⟩ := List.forall_mem_cons.mp silent
    cases texts with
    | nil => rwa [String.intercalate_singleton]
    | cons next texts =>
      rw [String.intercalate_cons_cons]
      exact first.between apart (inductionHypothesis others)

/-- Text between quotes is silent when its quotes are written twice. -/
theorem quoted {q : Char} (quote : isQuoteChar q = true) (s : String) :
    IsSilent (String.singleton q ++ Text.doubleChar q s ++ String.singleton q) := by
  have chars : (String.singleton q ++ Text.doubleChar q s ++ String.singleton q).toList =
      q :: ((s.toList.flatMap fun c => if c == q then [q, q] else [c]) ++ [q]) := by
    simp [Text.doubleChar]
  have opens := closingChar?_of_isQuoteChar quote
  constructor
  · have step (cs : List Char) : regionAfter none (q :: cs) = regionAfter (closingChar? q) cs := rfl
    rw [chars, step, opens, regionAfter_append, regionAfter_doubled quote]
    simp [regionAfter, regionStep]
  · rw [keywords, chars, keywordsFrom, if_neg (by simp [isKeywordChar_of_isQuoteChar quote]), opens,
      keywordsFrom_doubled quote]
    exact List.not_mem_nil

/-- A number is one word, and the word holds no letter. -/
theorem ofNat (n : Nat) : IsSilent (Text.ofNat n) := by
  have digit (c : Char) (member : c ∈ (Text.ofNat n).toList) : c.isDigit = true := by
    rw [Text.ofNat, String.toList_ofList] at member
    exact Nat.isDigit_of_mem_toDigits (by omega) (by omega) member
  constructor
  · refine regionAfter_of_closingChar? fun c member => closingChar?_of_isKeywordChar ?_
    simp [isKeywordChar, Char.isAlphanum, digit c member]
  · intro asks
    have letter : 'R' ∈ "RETURNING".toList := by decide
    have found := (mem_of_mem_keywordsFrom asks letter).resolve_left List.not_mem_nil
    obtain ⟨c, member, upper⟩ := List.mem_map.mp found
    -- a digit has no other case, and it is not that letter
    have bounds : 48 ≤ c.val.toNat ∧ c.val.toNat ≤ 57 := by
      simpa [Char.isDigit, UInt32.le_iff_toNat_le] using digit c member
    have kept : c.toUpper = c := by
      refine dif_neg fun lower => ?_
      have above : 97 ≤ c.val.toNat := UInt32.le_iff_toNat_le.mp lower.1
      omega
    rw [← kept, upper] at bounds
    exact absurd bounds.2 (by decide)

end IsSilent

/-! ## Silent fragments -/

namespace Fragment

variable {f g : Fragment}

theorem isSilent_append {separator : String} (left : IsSilent f.sql) (apart : IsSeparator separator)
    (right : IsSilent g.sql) : IsSilent (f.append g separator).sql := by
  unfold append
  split
  · exact left
  · split
    · exact right
    · exact left.between apart right

theorem isSilent_foldl_append {separator : String} {fragments : List Fragment} (start : IsSilent f.sql)
    (apart : IsSeparator separator) (silent : ∀ g ∈ fragments, IsSilent g.sql) :
    IsSilent (fragments.foldl (fun joined g => joined.append g separator) f).sql := by
  induction fragments generalizing f with
  | nil => exact start
  | cons g fragments inductionHypothesis =>
    obtain ⟨first, others⟩ := List.forall_mem_cons.mp silent
    exact inductionHypothesis (isSilent_append start apart first) others

theorem isSilent_join {combinator : Combinator} {fragments : List Fragment}
    (apart : IsSeparator combinator.text) (silent : ∀ g ∈ fragments, IsSilent g.sql) :
    IsSilent (join combinator fragments).sql :=
  isSilent_foldl_append (by decide) apart silent

theorem isSilent_prefixed {lead : String} (silent : IsSilent f.sql) (front : IsLead lead) :
    IsSilent (f.prefixed lead).sql := silent.behind front

theorem isSilent_parenthesize (silent : IsSilent f.sql) : IsSilent f.parenthesize.sql :=
  (silent.behind (by decide)).before (by decide)

theorem isSilent_negate (silent : IsSilent f.sql) : IsSilent f.negate.sql :=
  (silent.behind (by decide)).before (by decide)

end Fragment

end SqlAssembly
