import SqlAssembly.Proofs.Condition.Meaning
import SqlAssembly.Proofs.Text.Words

/-! # Reading condition text

Parentheses bind first, then NOT, then AND, then OR: the pieces of a text are cut at its
ORs, those parts at their ANDs, and what is left is a test unless NOT stands in front of it
or it is one group.  The AND of a BETWEEN counts as any other, with a test on each side.

* `read` — what pieces say.
* `read_or`, `read_and`, `read_group`, `read_not_group` — reading what joining, grouping
  and negating give.
* `isFree_read` — what pieces say may hold and may not.
* `Reads` — what is said by a text that can be read.
-/

namespace SqlAssembly.Condition

/-- A piece and what it says, should it be a group. -/
abbrev Node := Piece × Meaning

/-- Whether a piece is a connective that stands outside all groups. -/
def Piece.isConnective (c : Connective) : Piece → Bool
  | .token (.connective d) => c = d
  | _ => false

/-- What pieces without connectives say. -/
def unitMeaning : List Node → Meaning
  | [(.group _, m)] => m
  | (.token .not, _) :: nodes => (unitMeaning nodes).not
  | nodes => .test (nodes.map Prod.fst)

/-- What pieces without ORs say. -/
def conjunctionMeaning (nodes : List Node) : Meaning :=
  .joinAll .and ((nodes.splitOnP fun node => node.1.isConnective .and).map unitMeaning)

/-- What pieces say. -/
def nodesMeaning (nodes : List Node) : Meaning :=
  .joinAll .or ((nodes.splitOnP fun node => node.1.isConnective .or).map conjunctionMeaning)

mutual

/-- What a piece says: a token on its own is a test. -/
def Piece.meaning : Piece → Meaning
  | .token t => .test [.token t]
  | .group pieces => nodesMeaning (Piece.nodes pieces)

def Piece.nodes : List Piece → List Node
  | [] => []
  | piece :: pieces => (piece, piece.meaning) :: Piece.nodes pieces

end

def read (pieces : List Piece) : Meaning := nodesMeaning (Piece.nodes pieces)

def hasOr (pieces : List Piece) : Bool := pieces.any (Piece.isConnective .or)

/-! ## Joined, grouped and negated pieces -/

theorem nodes_append (ps qs : List Piece) :
    Piece.nodes (ps ++ qs) = Piece.nodes ps ++ Piece.nodes qs := by
  induction ps with
  | nil => simp [Piece.nodes]
  | cons p ps inductionHypothesis => simp [Piece.nodes, inductionHypothesis]

theorem mem_nodes {ps : List Piece} {node : Node} (member : node ∈ Piece.nodes ps) :
    node.1 ∈ ps ∧ node.2 = node.1.meaning := by
  induction ps with
  | nil => simp [Piece.nodes] at member
  | cons p ps inductionHypothesis =>
    rw [Piece.nodes, List.mem_cons] at member
    rcases member with rfl | later
    · exact ⟨List.mem_cons_self, rfl⟩
    · obtain ⟨present, reads⟩ := inductionHypothesis later
      exact ⟨List.mem_cons_of_mem _ present, reads⟩

theorem read_or (ps qs : List Piece) :
    read (ps ++ .token (.connective .or) :: qs) = (read ps).join .or (read qs) := by
  rw [read, nodes_append, Piece.nodes, nodesMeaning, List.splitOnP_append_cons _ _ rfl,
    List.map_append, Meaning.joinAll_append]
  rfl

/-- Without an OR, pieces say what their parts between ANDs say together. -/
theorem read_of_hasOr_eq_false {ps : List Piece} (none : hasOr ps = false) :
    read ps = conjunctionMeaning (Piece.nodes ps) := by
  have uncut : ∀ node ∈ Piece.nodes ps, node.1.isConnective .or = false := by
    intro node member
    rw [hasOr, List.any_eq_false] at none
    simpa using none _ (mem_nodes member).1
  rw [read, nodesMeaning, List.splitOnP_eq_singleton uncut]
  simp

theorem hasOr_append (ps qs : List Piece) : hasOr (ps ++ qs) = (hasOr ps || hasOr qs) := by
  rw [hasOr, List.any_append, hasOr, hasOr]

theorem hasOr_or (ps qs : List Piece) :
    hasOr (ps ++ .token (.connective .or) :: qs) = true := by
  rw [hasOr_append]
  simp [hasOr, Piece.isConnective]

theorem hasOr_and (ps qs : List Piece) :
    hasOr (ps ++ .token (.connective .and) :: qs) = (hasOr ps || hasOr qs) := by
  rw [hasOr_append]
  rfl

theorem read_and {ps qs : List Piece} (left : hasOr ps = false) (right : hasOr qs = false) :
    read (ps ++ .token (.connective .and) :: qs) = (read ps).join .and (read qs) := by
  have none : hasOr (ps ++ .token (.connective .and) :: qs) = false := by
    rw [hasOr_and, left, right, Bool.or_false]
  rw [read_of_hasOr_eq_false none, read_of_hasOr_eq_false left, read_of_hasOr_eq_false right,
    nodes_append, Piece.nodes, conjunctionMeaning, List.splitOnP_append_cons _ _ rfl,
    List.map_append, Meaning.joinAll_append]
  rfl

theorem read_group (ps : List Piece) : read [.group ps] = read ps := by
  rw [read_of_hasOr_eq_false rfl, conjunctionMeaning, List.splitOnP_eq_singleton]
  · simp [Piece.nodes, unitMeaning, Piece.meaning, read]
  · simp [Piece.nodes, Piece.isConnective]

theorem read_not_group (ps : List Piece) : read [.token .not, .group ps] = (read ps).not := by
  rw [read_of_hasOr_eq_false rfl, conjunctionMeaning, List.splitOnP_eq_singleton]
  · simp [Piece.nodes, unitMeaning, Piece.meaning, read]
  · simp [Piece.nodes, Piece.isConnective]

/-! ## Freedom -/

theorem isFree_unitMeaning {nodes : List Node} (free : ∀ node ∈ nodes, node.2.IsFree) :
    (unitMeaning nodes).IsFree := by
  fun_induction unitMeaning nodes with
  | case1 pieces m => exact free _ List.mem_cons_self
  | case2 m nodes inductionHypothesis =>
    exact (inductionHypothesis fun node member => free node (List.mem_cons_of_mem _ member)).not
  | case3 nodes => exact Meaning.isFree_test _

theorem isFree_cut {c : Connective} {divides : Node → Bool} {part : List Node → Meaning}
    {nodes : List Node} (free : ∀ node ∈ nodes, node.2.IsFree)
    (parts : ∀ nodes : List Node, (∀ node ∈ nodes, node.2.IsFree) → (part nodes).IsFree) :
    (Meaning.joinAll c ((nodes.splitOnP divides).map part)).IsFree := by
  refine Meaning.isFree_joinAll (by simp [List.splitOnP_ne_nil]) fun m member => ?_
  obtain ⟨cut, present, rfl⟩ := List.mem_map.mp member
  exact parts cut fun node inside => free node (Text.mem_of_mem_splitOnP present inside).1

theorem isFree_nodesMeaning {nodes : List Node} (free : ∀ node ∈ nodes, node.2.IsFree) :
    (nodesMeaning nodes).IsFree :=
  isFree_cut free fun _ free => isFree_cut free fun _ free => isFree_unitMeaning free

mutual

theorem Piece.isFree_meaning : ∀ p : Piece, p.meaning.IsFree
  | .token t => by
    rw [Piece.meaning]
    exact Meaning.isFree_test _
  | .group pieces => by
    rw [Piece.meaning]
    exact isFree_nodesMeaning (Piece.isFree_nodes pieces)
termination_by structural p => p

theorem Piece.isFree_nodes : ∀ (ps : List Piece), ∀ node ∈ Piece.nodes ps, node.2.IsFree
  | [] => by simp [Piece.nodes]
  | p :: ps => by
    rw [Piece.nodes, List.forall_mem_cons]
    exact ⟨p.isFree_meaning, Piece.isFree_nodes ps⟩
termination_by structural ps => ps

end

theorem isFree_read (ps : List Piece) : (read ps).IsFree :=
  isFree_nodesMeaning (Piece.isFree_nodes ps)

/-! ## Texts -/

def isReadable (s : String) : Bool := (pieces? s).isSome

/-- What a text says; one that cannot be read says nothing that could hold. -/
def meaning (s : String) : Meaning := ((pieces? s).map read).getD (.neutral .or)

example : ∀ a b c d : Bool, (meaning "a OR NOT b AND (c OR d)").holds (fun i _ => [a, b, c, d].getD i false)
    = (a || (!b && (c || d))) := by
  decide +kernel

/-- Whether an OR stands outside all parentheses of a text. -/
def hasTopLevelOr (s : String) : Bool := (pieces? s).any hasOr

/-- All that is said about a text: it can be read, what it says, and whether it has an OR outside
all parentheses. -/
structure Reads (s : String) (m : Meaning) (alternatives : Bool) : Prop where
  readable : isReadable s = true
  meaning : meaning s = m
  hasTopLevelOr : hasTopLevelOr s = alternatives

theorem reads_of_pieces {s : String} {ps : List Piece} (given : pieces? s = some ps) :
    Reads s (read ps) (hasOr ps) :=
  ⟨by rw [isReadable, given]; rfl, by rw [meaning, given]; rfl, by rw [hasTopLevelOr, given]; rfl⟩

theorem pieces_of_isReadable {s : String} (readable : isReadable s = true) :
    ∃ ps, pieces? s = some ps := Option.isSome_iff_exists.mp readable

theorem Reads.pieces {s : String} {m : Meaning} {alternatives : Bool} (reads : Reads s m alternatives) :
    ∃ ps, pieces? s = some ps ∧ read ps = m ∧ hasOr ps = alternatives := by
  obtain ⟨ps, given⟩ := pieces_of_isReadable reads.readable
  have same := reads_of_pieces given
  exact ⟨ps, given, same.meaning.symm.trans reads.meaning, same.hasTopLevelOr.symm.trans reads.hasTopLevelOr⟩

theorem reads_of_isReadable {s : String} (readable : isReadable s = true) :
    Reads s (meaning s) (hasTopLevelOr s) := ⟨readable, rfl, rfl⟩

namespace Reads

variable {s t : String} {m n : Meaning} {alternatives alternatives' : Bool}

theorem or (left : Reads s m alternatives) (right : Reads t n alternatives') :
    Reads (s ++ Combinator.or.text ++ t) (m.join .or n) true := by
  obtain ⟨ps, given, rfl, -⟩ := left.pieces
  obtain ⟨qs, givenToo, rfl, -⟩ := right.pieces
  have reads := reads_of_pieces (pieces?_join given givenToo .or)
  rw [read_or, hasOr_or] at reads
  exact reads

/-- Texts with an AND between them have to hold both, unless an OR stands in one of them. -/
theorem and (left : Reads s m false) (right : Reads t n false) :
    Reads (s ++ Combinator.and.text ++ t) (m.join .and n) false := by
  obtain ⟨ps, given, rfl, none⟩ := left.pieces
  obtain ⟨qs, givenToo, rfl, noneToo⟩ := right.pieces
  have reads := reads_of_pieces (pieces?_join given givenToo .and)
  rw [read_and none noneToo, hasOr_and, none, noneToo] at reads
  exact reads

/-- A text in parentheses says what the text says, and no OR of it is left outside. -/
theorem parenthesize (reads : Reads s m alternatives) : Reads ("( " ++ s ++ " )") m false := by
  obtain ⟨ps, given, rfl, -⟩ := reads.pieces
  rw [← read_group]
  exact reads_of_pieces (pieces?_parenthesize given)

theorem negate (reads : Reads s m alternatives) : Reads ("NOT ( " ++ s ++ " )") m.not false := by
  obtain ⟨ps, given, rfl, -⟩ := reads.pieces
  rw [← read_not_group]
  exact reads_of_pieces (pieces?_negate given)

end Reads

end SqlAssembly.Condition
