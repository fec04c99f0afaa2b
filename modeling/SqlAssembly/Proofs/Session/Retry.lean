import SqlAssembly.Proofs.Session.Recording

/-! # One reconnection, one retry

A run hands its statement to the backend.  Only a lost connection makes it go on: it
reconnects once, and if that succeeds hands over the same statement once more.  Three courses
are possible, and a sequence of runs is a sequence of courses, one for each statement.

* `Statement.Course` — the three courses of a run.
* `Backend.executeRetrying_recording` — the course of one run, as a recorder sees it.
* `Session.runAll_attempts` — the courses of a sequence of runs.
-/

namespace SqlAssembly

/-- What a backend is asked for a statement, with its answers, and the answer that counts. -/
inductive Statement.Course (statement : Statement) :
    List Exchange → Except BackendError ResultSet → Prop
  -- The first answer is a result, or a failure of the statement itself.
  | settled (answer : Except BackendError ResultSet) :
      (∀ text, answer ≠ .error (.connection text)) →
      Course statement [.execute statement.sql statement.params answer] answer
  | abandoned (text : String) (cause : BackendError) :
      Course statement
        [.execute statement.sql statement.params (.error (.connection text)),
          .reconnect (.error cause)]
        (.error cause)
  -- The second answer counts, whatever it is.
  | retried (text : String) (answer : Except BackendError ResultSet) :
      Course statement
        [.execute statement.sql statement.params (.error (.connection text)),
          .reconnect (.ok ()), .execute statement.sql statement.params answer]
        answer

variable {State : Type}

theorem Backend.executeRetrying_recording (backend : Backend State) (state : State)
    (log : List Exchange) (statement : Statement) :
    ∃ exchanges answer after, statement.Course exchanges answer ∧
      backend.executeRetrying state statement.sql statement.params = (answer, after) ∧
      backend.recording.executeRetrying (state, log) statement.sql statement.params =
        (answer, after, log ++ exchanges) := by
  rcases first : backend.execute state statement.sql statement.params with ⟨answer, lost⟩
  cases answer with
  | ok result =>
    refine ⟨_, .ok result, lost, .settled _ (by simp), ?_, ?_⟩ <;>
      simp [executeRetrying, recording, first]
  | error cause =>
    cases cause with
    | statement text =>
      refine ⟨_, .error (.statement text), lost, .settled _ (by simp), ?_, ?_⟩ <;>
        simp [executeRetrying, recording, first]
    | connection text =>
      rcases second : backend.reconnect lost with ⟨reconnected, fresh⟩
      cases reconnected with
      | error cause =>
        refine ⟨_, _, fresh, .abandoned text cause, ?_, ?_⟩ <;>
          simp [executeRetrying, recording, first, second]
      | ok done =>
        rcases third : backend.execute fresh statement.sql statement.params with ⟨answer, after⟩
        refine ⟨_, _, after, .retried text answer, ?_, ?_⟩ <;>
          simp [executeRetrying, recording, first, second, third]

/-! ## Sequences of runs -/

/-- One run of a statement: what the backend was asked and has answered, and the answer that
counts. -/
structure Attempt where
  statement : Statement
  exchanges : List Exchange
  answer : Except BackendError ResultSet

namespace Attempt

/-- The outcome of a run: a failure carries the statement that failed. -/
def outcome (attempt : Attempt) : Except SessionError ResultSet :=
  attempt.answer.mapError (.execution attempt.statement.sql attempt.statement.params)

/-- A run that takes one of the three courses. -/
def IsCourse (attempt : Attempt) : Prop :=
  attempt.statement.Course attempt.exchanges attempt.answer

end Attempt

/-- The text and the parameters that are handed over by a call, if it hands over a statement. -/
def Exchange.handed? : Exchange → Option (String × List Scalar)
  | .execute sql params _ => some (sql, params)
  | .quote _ _ => none
  | .reconnect _ => none

theorem Attempt.getLast?_handed {attempt : Attempt} (course : attempt.IsCourse) :
    (attempt.exchanges.filterMap Exchange.handed?).getLast? =
      some (attempt.statement.sql, attempt.statement.params) := by
  obtain ⟨statement, exchanges, answer⟩ := attempt
  have course : statement.Course exchanges answer := course
  cases course <;> rfl

theorem Attempt.getLast?_handed_flatMap (attempts : List Attempt)
    (courses : ∀ attempt ∈ attempts, attempt.IsCourse) :
    ((attempts.flatMap exchanges).filterMap Exchange.handed?).getLast? =
      (attempts.map statement).getLast?.map fun statement => (statement.sql, statement.params) := by
  induction attempts with
  | nil => rfl
  | cons attempt attempts inductionHypothesis =>
    obtain ⟨course, courses⟩ := List.forall_mem_cons.mp courses
    rw [List.flatMap_cons, List.filterMap_append, List.getLast?_append,
      inductionHypothesis courses, getLast?_handed course, List.map_cons, List.getLast?_cons]
    cases (attempts.map statement).getLast? <;> rfl

namespace Session

/-- Runs statements one after another, whatever becomes of each. -/
def runAll (s : Session State) :
    List Statement → List (Except SessionError ResultSet) × Session State
  | [] => ([], s)
  | statement :: statements =>
    let (outcome, after) := s.run statement
    let (outcomes, final) := after.runAll statements
    (outcome :: outcomes, final)

theorem run_recorded (s : Session State) (log : List Exchange) (statement : Statement) :
    ∃ attempt : Attempt, attempt.statement = statement ∧ attempt.IsCourse ∧
      (s.run statement).1 = attempt.outcome ∧ (s.run statement).2.last = some statement ∧
      (s.recorded log).run statement =
        ((s.run statement).1, (s.run statement).2.recorded (log ++ attempt.exchanges)) := by
  obtain ⟨exchanges, answer, after, course, plain, seen⟩ :=
    s.backend.executeRetrying_recording s.state log statement
  refine ⟨⟨statement, exchanges, answer⟩, rfl, course, ?_, rfl, ?_⟩
  · simp only [run, plain]
    rfl
  · simp only [run, recorded, plain, seen]

theorem runAll_recorded (s : Session State) (log : List Exchange) (statements : List Statement) :
    ∃ attempts : List Attempt, attempts.map Attempt.statement = statements ∧
      (∀ attempt ∈ attempts, attempt.IsCourse) ∧
      (s.runAll statements).1 = attempts.map Attempt.outcome ∧
      (s.runAll statements).2.last = statements.getLast?.or s.last ∧
      (s.recorded log).runAll statements =
        ((s.runAll statements).1,
          (s.runAll statements).2.recorded (log ++ attempts.flatMap Attempt.exchanges)) := by
  induction statements generalizing s log with
  | nil => exact ⟨[], rfl, by simp, rfl, rfl, by simp [runAll]⟩
  | cons statement statements inductionHypothesis =>
    obtain ⟨attempt, rfl, course, outcome, last, seen⟩ := s.run_recorded log statement
    obtain ⟨attempts, rfl, courses, outcomes, lastOfAll, seenAll⟩ :=
      inductionHypothesis (s.run attempt.statement).2 (log ++ attempt.exchanges)
    refine ⟨attempt :: attempts, rfl, ?_, ?_, ?_, ?_⟩
    · simpa using ⟨course, courses⟩
    · simp [runAll, outcome, outcomes]
    · simp only [runAll]
      rw [lastOfAll, last, List.getLast?_cons]
      cases (attempts.map Attempt.statement).getLast? <;> rfl
    · simp [runAll, seen, seenAll]

/-- **One reconnection, one retry.**  A sequence of statements is run in a sequence of attempts,
one for each, that together make up all that the backend is asked.  Each takes one of the three
courses and has the outcome of its last answer, and the statement of the last attempt is the one
that was handed over last, whatever became of it. -/
theorem runAll_attempts (s : Session State) (statements : List Statement) :
    let seen := (s.recorded []).runAll statements
    seen = ((s.runAll statements).1, (s.runAll statements).2.recorded seen.2.log) ∧
      (∃ attempts : List Attempt, attempts.map Attempt.statement = statements ∧
        attempts.map Attempt.outcome = (s.runAll statements).1 ∧
        attempts.flatMap Attempt.exchanges = seen.2.log ∧
        ∀ attempt ∈ attempts, attempt.IsCourse) ∧
      (s.runAll statements).2.last = statements.getLast?.or s.last ∧
      (seen.2.log.filterMap Exchange.handed?).getLast? =
        statements.getLast?.map fun statement => (statement.sql, statement.params) := by
  obtain ⟨attempts, rfl, courses, outcomes, last, seen⟩ := s.runAll_recorded [] statements
  rw [seen]
  exact ⟨rfl, ⟨attempts, rfl, outcomes.symm, rfl, courses⟩, last,
    Attempt.getLast?_handed_flatMap attempts courses⟩

end Session

end SqlAssembly
