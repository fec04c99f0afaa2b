import SqlAssembly.Proofs.Condition.Piece

/-! # What conditions mean

A condition is made of tests, and what it says follows from what its tests say.  The same
words may stand for different tests, because each has parameters of its own, so a test is
told by its place among the tests of the text as well as by its words.  A meaning says how
many tests it has and for which outcomes of them it holds; joining two meanings gives the
first tests to the one and the following ones to the other.

* `Assignment` — the outcomes of tests.
* `Meaning` — for which assignments a condition holds.
* `Meaning.join`, `Meaning.joinAll` — conditions of which both, all, either or any have to
  hold.
* `Meaning.IsFree` — a condition that some assignment fulfils and another does not.
-/

namespace SqlAssembly

namespace Connective

def combine : Connective → Bool → Bool → Bool
  | .and, a, b => a && b
  | .or, a, b => a || b

/-- The outcome that changes no other. -/
def neutral : Connective → Bool
  | .and => true
  | .or => false

variable (c : Connective)

theorem combine_assoc (a b d : Bool) : c.combine (c.combine a b) d = c.combine a (c.combine b d) := by
  cases c <;> simp [combine, Bool.and_assoc, Bool.or_assoc]

@[simp] theorem neutral_combine (a : Bool) : c.combine c.neutral a = a := by
  cases c <;> simp [combine, neutral]

@[simp] theorem combine_neutral (a : Bool) : c.combine a c.neutral = a := by
  cases c <;> simp [combine, neutral]

end Connective

namespace Condition

/-! ## Assignments -/

/-- The outcomes of tests, by their place among the tests of a text and by their pieces. -/
abbrev Assignment := Nat → List Piece → Bool

namespace Assignment

def drop (truth : Assignment) (n : Nat) : Assignment := fun i => truth (n + i)

/-- The outcomes of `n` tests from one assignment and of the following ones from another. -/
def glue (n : Nat) (first rest : Assignment) : Assignment :=
  fun i => if i < n then first i else rest (i - n)

@[simp] theorem drop_zero (truth : Assignment) : truth.drop 0 = truth := by
  funext i
  simp [drop]

theorem drop_drop (truth : Assignment) (m n : Nat) : (truth.drop m).drop n = truth.drop (m + n) := by
  funext i
  simp [drop, Nat.add_assoc]

@[simp] theorem drop_glue (n : Nat) (first rest : Assignment) : (glue n first rest).drop n = rest := by
  funext i
  have behind : ¬n + i < n := by omega
  simp [drop, glue, behind]

theorem glue_of_lt {n i : Nat} (lt : i < n) (first rest : Assignment) :
    glue n first rest i = first i := if_pos lt

end Assignment

/-! ## Meanings -/

/-- How many tests a condition has, and for which outcomes of them it holds. -/
@[ext]
structure Meaning where
  tests : Nat
  holds : Assignment → Bool
  /-- Only the tests of the condition matter to it. -/
  holds_congr : ∀ {truth truth' : Assignment},
    (∀ i < tests, truth i = truth' i) → holds truth = holds truth'

namespace Meaning

def test (pieces : List Piece) : Meaning where
  tests := 1
  holds truth := truth 0 pieces
  holds_congr same := by rw [same 0 Nat.one_pos]

def not (m : Meaning) : Meaning where
  tests := m.tests
  holds truth := !m.holds truth
  holds_congr same := by rw [m.holds_congr same]

def join (c : Connective) (m n : Meaning) : Meaning where
  tests := m.tests + n.tests
  holds truth := c.combine (m.holds truth) (n.holds (truth.drop m.tests))
  holds_congr {truth truth'} same := by
    have first : m.holds truth = m.holds truth' := m.holds_congr fun i lt => same i (by omega)
    have second : n.holds (truth.drop m.tests) = n.holds (truth'.drop m.tests) :=
      n.holds_congr fun i lt => same (m.tests + i) (by omega)
    rw [first, second]

/-- The condition without tests that changes none it is joined to. -/
def neutral (c : Connective) : Meaning where
  tests := 0
  holds _ := c.neutral
  holds_congr _ := rfl

/-- Conditions in a row with connectives between them. -/
def joinAll (c : Connective) (ms : List Meaning) : Meaning :=
  ms.foldr (join c) (neutral c)

variable (c : Connective) (m n p : Meaning)

theorem join_assoc : (m.join c n).join c p = m.join c (n.join c p) := by
  ext truth
  · simp [join, Nat.add_assoc]
  · simp [join, Assignment.drop_drop, Connective.combine_assoc]

@[simp] theorem neutral_join : (neutral c).join c m = m := by
  ext truth
  · simp [join, neutral]
  · simp [join, neutral]

@[simp] theorem join_neutral : m.join c (neutral c) = m := by
  ext truth
  · simp [join, neutral]
  · simp [join, neutral]

@[simp] theorem joinAll_nil : joinAll c [] = neutral c := rfl

@[simp] theorem joinAll_cons (ms : List Meaning) : joinAll c (m :: ms) = m.join c (joinAll c ms) := rfl

theorem joinAll_append (ms ns : List Meaning) :
    joinAll c (ms ++ ns) = (joinAll c ms).join c (joinAll c ns) := by
  induction ms with
  | nil => simp
  | cons m ms inductionHypothesis => simp [inductionHypothesis, join_assoc]

/-! ## Free conditions -/

/-- A condition is free when some assignment fulfils it and some other does not. -/
structure IsFree (m : Meaning) : Prop where
  fulfilled : ∃ truth, m.holds truth = true
  unfulfilled : ∃ truth, m.holds truth = false

variable {c m n p}

theorem IsFree.outcome (free : m.IsFree) (b : Bool) : ∃ truth, m.holds truth = b := by
  cases b
  · exact free.unfulfilled
  · exact free.fulfilled

theorem isFree_test (pieces : List Piece) : (test pieces).IsFree :=
  ⟨⟨fun _ _ => true, rfl⟩, ⟨fun _ _ => false, rfl⟩⟩

theorem IsFree.not (free : m.IsFree) : m.not.IsFree := by
  obtain ⟨⟨truth, yes⟩, ⟨truth', no⟩⟩ := free
  exact ⟨⟨truth', by simp [Meaning.not, no]⟩, ⟨truth, by simp [Meaning.not, yes]⟩⟩

/-- The tests of two joined conditions have their outcomes independently. -/
theorem holds_join_glue (c : Connective) (m n : Meaning) (first rest : Assignment) :
    (m.join c n).holds (.glue m.tests first rest) = c.combine (m.holds first) (n.holds rest) := by
  have own : m.holds (.glue m.tests first rest) = m.holds first :=
    m.holds_congr fun i lt => Assignment.glue_of_lt lt first rest
  simp [join, own]

theorem IsFree.join (left : m.IsFree) (right : n.IsFree) : (m.join c n).IsFree := by
  -- two conditions of one outcome have that outcome together
  have same (b : Bool) : ∃ truth, (m.join c n).holds truth = b := by
    obtain ⟨first, outcome⟩ := left.outcome b
    obtain ⟨rest, outcomeToo⟩ := right.outcome b
    refine ⟨.glue m.tests first rest, ?_⟩
    rw [holds_join_glue, outcome, outcomeToo]
    cases c <;> cases b <;> rfl
  exact ⟨same true, same false⟩

theorem isFree_joinAll {ms : List Meaning} (given : ms ≠ []) (free : ∀ m ∈ ms, m.IsFree) :
    (joinAll c ms).IsFree := by
  induction ms with
  | nil => contradiction
  | cons m ms inductionHypothesis =>
    rw [List.forall_mem_cons] at free
    obtain ⟨head, rest⟩ := free
    cases ms with
    | nil => simpa using head
    | cons m' ms => exact head.join (inductionHypothesis (by simp) rest)

end Meaning

end Condition

end SqlAssembly
