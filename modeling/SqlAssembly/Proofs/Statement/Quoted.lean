import SqlAssembly.Proofs.Keywords

/-! # Keywords around quoted regions

The scan for keywords carries three things from one character to the next: the keywords that it has
found, the word that it is reading and the region that it stands in.  The character that opens a region
ends the word, nothing in the region is read, and behind the region the scan goes on as it does at the
start of a text.  So a quoted region adds no keyword wherever it stands, and what is quoted in it makes
no difference.

* `KeywordScan`, `KeywordScan.step` — the state of a scan, and what one character does to it.
* `KeywordScan.region_read`, `KeywordScan.keywords_read` — where a text leaves a scan, and what the scan
  finds in it.
* `QuotedRegion`, `KeywordScan.read_quoted` — a quoted region, and what it does to a scan outside regions.
* `keywords_around_region` — the keywords of a text with a quoted region in it.
-/

namespace SqlAssembly

/-- The state of a scan for keywords between two characters. -/
structure KeywordScan where
  found : List String
  /-- What has been read of a word, last character first. -/
  word : List Char
  /-- The character that closes the region the scan stands in. -/
  region : Option Char
  deriving DecidableEq

namespace KeywordScan

def start : KeywordScan := ⟨[], [], none⟩

/-- The keywords that have been found if the text ends here. -/
def keywords (s : KeywordScan) : List String := s.found ++ finishedKeyword s.word

def step (s : KeywordScan) (c : Char) : KeywordScan :=
  match s.region with
  | some q => { s with region := regionStep (some q) c }
  | none =>
    if isKeywordChar c then { s with word := c.toUpper :: s.word } else ⟨s.keywords, [], regionStep none c⟩

def read (s : KeywordScan) (cs : List Char) : KeywordScan := cs.foldl step s

theorem read_cons (s : KeywordScan) (c : Char) (cs : List Char) : s.read (c :: cs) = (s.step c).read cs := rfl

theorem read_append (s : KeywordScan) (xs ys : List Char) : s.read (xs ++ ys) = (s.read xs).read ys :=
  List.foldl_append

theorem region_read (s : KeywordScan) (cs : List Char) : (s.read cs).region = regionAfter s.region cs := by
  induction cs generalizing s with
  | nil => rfl
  | cons c cs inductionHypothesis =>
    obtain ⟨found, word, region⟩ := s
    have moved : (step ⟨found, word, region⟩ c).region = regionStep region c := by
      cases region with
      | some q => rfl
      | none =>
        by_cases inWord : isKeywordChar c
        · simp [step, regionStep, inWord, closingChar?_of_isKeywordChar]
        · simp [step, inWord]
    rw [read_cons, inductionHypothesis, moved]
    rfl

theorem keywords_read (s : KeywordScan) (cs : List Char) :
    (s.read cs).keywords = s.found ++ keywordsFrom s.region s.word cs := by
  induction cs generalizing s with
  | nil =>
    rw [keywordsFrom]
    rfl
  | cons c cs inductionHypothesis =>
    obtain ⟨found, word, region⟩ := s
    rw [read_cons, inductionHypothesis]
    cases region with
    | some q => rfl
    | none =>
      simp only [step, keywordsFrom]
      split
      · rfl
      · exact List.append_assoc ..

theorem keywords_eq_read (sql : String) : SqlAssembly.keywords sql = (start.read sql.toList).keywords :=
  (start.keywords_read sql.toList).symm

end KeywordScan

/-! ## Quoted regions -/

/-- Text between the character that opens a region and the one that closes it, which is not in the text. -/
structure QuotedRegion where
  opening : Char
  closing : Char
  content : String
  opens : closingChar? opening = some closing
  closed : closing ∉ content.toList

def QuotedRegion.text (r : QuotedRegion) : String :=
  String.singleton r.opening ++ r.content ++ String.singleton r.closing

namespace KeywordScan

variable {s : KeywordScan} {opening closing : Char}

/-- A word that is being read ends where a region is opened. -/
theorem step_opening (outside : s.region = none) (opens : closingChar? opening = some closing) :
    s.step opening = ⟨s.keywords, [], some closing⟩ := by
  have noWord := isKeywordChar_of_closingChar? opens
  simp [step, outside, noWord, regionStep, opens]

theorem step_closing (inside : s.region = some closing) : s.step closing = { s with region := none } := by
  simp [step, inside, regionStep]

/-- Inside a region only the character that closes it is noticed. -/
theorem read_content {content : List Char} (inside : s.region = some closing) (closed : closing ∉ content) :
    s.read content = s := by
  obtain ⟨found, word, region⟩ := s
  obtain rfl : region = some closing := inside
  induction content with
  | nil => rfl
  | cons c content inductionHypothesis =>
    obtain ⟨other, rest⟩ := not_or.mp (List.mem_cons.not.mp closed)
    have differs : (c == closing) = false := beq_false_of_ne (Ne.symm other)
    have stays : step ⟨found, word, some closing⟩ c = ⟨found, word, some closing⟩ := by
      simp [step, regionStep, differs]
    rw [read_cons, stays, inductionHypothesis rest]

/-- A quoted region ends the word in front of it and leaves nothing else behind. -/
theorem read_quoted (outside : s.region = none) (r : QuotedRegion) :
    s.read r.text.toList = ⟨s.keywords, [], none⟩ := by
  have chars : r.text.toList = r.opening :: (r.content.toList ++ [r.closing]) := by
    simp [QuotedRegion.text]
  rw [chars, read_cons, read_append, step_opening outside r.opens, read_content rfl r.closed, read_cons,
    step_closing rfl]
  rfl

end KeywordScan

/-- **Quoted text holds no keywords.**  A scan finds the keywords of a text character by character.  A
quoted region where it stands outside all regions ends the word in front of it, and the scan is outside all
regions behind it, with no word begun.  So the keywords are those of the text in front of the region and
those of the text behind it, and whether the statement gives rows does not depend on what the region
holds. -/
theorem keywords_around_region {a : String} (outside : regionAfter none a.toList = none)
    (r : QuotedRegion) (b : String) :
    (∀ sql, keywords sql = (KeywordScan.start.read sql.toList).keywords) ∧
      KeywordScan.start.read (a ++ r.text).toList = ⟨keywords a, [], none⟩ ∧
      keywords (a ++ r.text ++ b) = keywords a ++ keywords b ∧
      ∀ other : QuotedRegion, returnsRows (a ++ other.text ++ b) = returnsRows (a ++ r.text ++ b) := by
  have behind (r : QuotedRegion) : KeywordScan.start.read (a ++ r.text).toList = ⟨keywords a, [], none⟩ := by
    have inFront : (KeywordScan.start.read a.toList).region = none := by
      rw [KeywordScan.region_read]
      exact outside
    rw [String.toList_append, KeywordScan.read_append, KeywordScan.read_quoted inFront,
      KeywordScan.keywords_eq_read]
  have around (r : QuotedRegion) : keywords (a ++ r.text ++ b) = keywords a ++ keywords b := by
    rw [KeywordScan.keywords_eq_read, String.toList_append, KeywordScan.read_append, behind,
      KeywordScan.keywords_read]
    rfl
  refine ⟨KeywordScan.keywords_eq_read, behind r, around r, fun other => ?_⟩
  rw [returnsRows, returnsRows, around, around]

/-- A name in brackets with a quote and a keyword in it, right between two words and behind a region that
holds another quote. -/
theorem keywords_around_region_bracketed :
    let r : QuotedRegion := ⟨'[', ']', "it's returning", rfl, by decide⟩
    let a := "UPDATE \"it's\" SET a"
    regionAfter none a.toList = none ∧
      keywords (a ++ r.text ++ "b = 1") = ["UPDATE", "SET", "A"] ++ ["B", "1"] ∧
      ∀ other : QuotedRegion, returnsRows (a ++ other.text ++ "b = 1") = false := by
  intro r a
  have outside : regionAfter none a.toList = none := by decide
  obtain ⟨-, -, around, same⟩ := keywords_around_region outside r "b = 1"
  have front : keywords a = ["UPDATE", "SET", "A"] := by decide
  have back : keywords "b = 1" = ["B", "1"] := by decide
  rw [front, back] at around
  refine ⟨outside, around, fun other => ?_⟩
  rw [same other, returnsRows, around]
  decide

end SqlAssembly
