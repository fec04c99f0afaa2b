import SqlAssembly.Proofs.Condition.Lexeme

/-! # The pieces of condition text

A parenthesis and the one that closes it enclose a group, so the lexemes of a text whose
parentheses match are a list of tokens and groups, the *pieces* of the text.  Pieces and
lexemes determine each other, which is why pieces of texts in a row are pieces in a row.

* `Piece.lexemes` — the lexemes of pieces.
* `nestFrom_eq_some_iff` — the pieces of lexemes are those that have these lexemes.
* `pieces?` — the pieces of a text that ends outside quotes.
* `pieces?_join`, `pieces?_parenthesize`, `pieces?_negate` — the pieces of texts that are
  joined, grouped and negated.
-/

namespace SqlAssembly.Condition

/-- A token, or what a pair of parentheses encloses. -/
inductive Piece where
  | token (t : Token)
  | group (pieces : List Piece)

mutual

def Piece.lexemes : Piece → List Lexeme
  | .token t => [.token t]
  | .group pieces => .opening :: Piece.allLexemes pieces ++ [.closing]

def Piece.allLexemes : List Piece → List Lexeme
  | [] => []
  | piece :: pieces => piece.lexemes ++ Piece.allLexemes pieces

end

/-- The pieces of lexemes, if their parentheses match.  `outer` holds the pieces in front of
each parenthesis that is still open, the last opened first; `read` holds those behind it. -/
def nestFrom : (outer : List (List Piece)) → (read : List Piece) → List Lexeme → Option (List Piece)
  | [], read, [] => some read
  | _ :: _, _, [] => none
  | outer, read, .token t :: rest => nestFrom outer (read ++ [.token t]) rest
  | outer, read, .opening :: rest => nestFrom (read :: outer) [] rest
  | [], _, .closing :: _ => none
  | before :: outer, read, .closing :: rest => nestFrom outer (before ++ [.group read]) rest

/-- The pieces of a text that ends outside quotes and whose parentheses match. -/
def pieces? (s : String) : Option (List Piece) :=
  if isClosed s then nestFrom [] [] (lexemes s) else none

/-! ## Pieces and lexemes -/

theorem allLexemes_append (ps qs : List Piece) :
    Piece.allLexemes (ps ++ qs) = Piece.allLexemes ps ++ Piece.allLexemes qs := by
  induction ps with
  | nil => simp [Piece.allLexemes]
  | cons p ps inductionHypothesis => simp [Piece.allLexemes, inductionHypothesis]

mutual

theorem nestFrom_lexemes (outer : List (List Piece)) (read : List Piece) :
    ∀ (p : Piece) (rest : List Lexeme),
      nestFrom outer read (p.lexemes ++ rest) = nestFrom outer (read ++ [p]) rest
  | .token t, rest => by simp [Piece.lexemes, nestFrom]
  | .group pieces, rest => by
    simp only [Piece.lexemes, List.cons_append, List.append_assoc, nestFrom]
    rw [nestFrom_allLexemes (read :: outer) [] pieces]
    simp [nestFrom]
termination_by structural p => p

theorem nestFrom_allLexemes (outer : List (List Piece)) (read : List Piece) :
    ∀ (ps : List Piece) (rest : List Lexeme),
      nestFrom outer read (Piece.allLexemes ps ++ rest) = nestFrom outer (read ++ ps) rest
  | [], rest => by simp [Piece.allLexemes]
  | p :: ps, rest => by
    simp only [Piece.allLexemes, List.append_assoc]
    rw [nestFrom_lexemes outer read p, nestFrom_allLexemes outer (read ++ [p]) ps]
    simp
termination_by structural ps => ps

end

/-- The lexemes read so far, with the parentheses that are still open. -/
def openLexemes : (outer : List (List Piece)) → (read : List Piece) → List Lexeme
  | [], read => Piece.allLexemes read
  | before :: outer, read => openLexemes outer before ++ .opening :: Piece.allLexemes read

theorem openLexemes_append (outer : List (List Piece)) (read : List Piece) (p : Piece) :
    openLexemes outer (read ++ [p]) = openLexemes outer read ++ p.lexemes := by
  cases outer <;> simp [openLexemes, allLexemes_append, Piece.allLexemes]

/-- No lexeme is lost or added on the way to pieces. -/
theorem lexemes_of_nestFrom {outer : List (List Piece)} {read pieces : List Piece}
    {ls : List Lexeme} (nested : nestFrom outer read ls = some pieces) :
    Piece.allLexemes pieces = openLexemes outer read ++ ls := by
  fun_induction nestFrom outer read ls with
  | case1 read =>
    cases nested
    simp [openLexemes]
  | case2 | case5 => cases nested
  | case3 outer read t rest inductionHypothesis =>
    rw [inductionHypothesis nested, openLexemes_append]
    simp [Piece.lexemes]
  | case4 outer read rest inductionHypothesis =>
    rw [inductionHypothesis nested]
    simp [openLexemes, Piece.allLexemes]
  | case6 before outer read rest inductionHypothesis =>
    rw [inductionHypothesis nested, openLexemes_append]
    simp [openLexemes, Piece.lexemes]

/-- Lexemes have the pieces whose lexemes they are. -/
theorem nestFrom_eq_some_iff {ls : List Lexeme} {pieces : List Piece} :
    nestFrom [] [] ls = some pieces ↔ Piece.allLexemes pieces = ls := by
  constructor
  · intro nested
    simpa [openLexemes, Piece.allLexemes] using lexemes_of_nestFrom nested
  · rintro rfl
    simpa [nestFrom] using nestFrom_allLexemes [] [] pieces []

/-! ## The pieces of texts -/

theorem pieces?_eq_some_iff {s : String} {pieces : List Piece} :
    pieces? s = some pieces ↔ isClosed s = true ∧ Piece.allLexemes pieces = lexemes s := by
  unfold pieces?
  split
  · rename_i closed
    simp [closed, nestFrom_eq_some_iff]
  · rename_i unclosed
    simp [unclosed]

theorem pieces?_join {s t : String} {ps qs : List Piece} (left : pieces? s = some ps)
    (right : pieces? t = some qs) (c : Connective) :
    pieces? (s ++ c.combinator.text ++ t) = some (ps ++ .token (.connective c) :: qs) := by
  rw [pieces?_eq_some_iff] at left right ⊢
  obtain ⟨closed, leftLexemes⟩ := left
  obtain ⟨closedToo, rightLexemes⟩ := right
  have between : isClosed c.combinator.text = true := by cases c <;> rfl
  refine ⟨isClosed_append (isClosed_append closed between) closedToo, ?_⟩
  rw [lexemes_join closed, allLexemes_append, Piece.allLexemes, leftLexemes, rightLexemes]
  rfl

theorem pieces?_parenthesize {s : String} {ps : List Piece} (given : pieces? s = some ps) :
    pieces? ("( " ++ s ++ " )") = some [.group ps] := by
  rw [pieces?_eq_some_iff] at given ⊢
  obtain ⟨closed, same⟩ := given
  refine ⟨isClosed_append (isClosed_append rfl closed) rfl, ?_⟩
  rw [lexemes_parenthesize closed, ← same]
  simp [Piece.allLexemes, Piece.lexemes]

theorem pieces?_negate {s : String} {ps : List Piece} (given : pieces? s = some ps) :
    pieces? ("NOT ( " ++ s ++ " )") = some [.token .not, .group ps] := by
  rw [pieces?_eq_some_iff] at given ⊢
  obtain ⟨closed, same⟩ := given
  refine ⟨isClosed_append (isClosed_append rfl closed) rfl, ?_⟩
  rw [lexemes_negate closed, ← same]
  simp [Piece.allLexemes, Piece.lexemes]

end SqlAssembly.Condition
