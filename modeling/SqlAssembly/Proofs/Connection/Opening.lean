import SqlAssembly.Engine

/-! # The order in which endpoints are tried

Endpoints are tried one after another until one can be opened.  An attempt may change the world for the
attempts behind it, so which endpoint opens is told of the worlds that they are made in.  Nothing is known
of what opens a URL but that it gives a pool or an error.

* `Opener.Fails` — attempts that all fail, one after another.
* `Opener.Course` — what becomes of endpoints that are tried in order.
* `Opener.recording` — an opener with a recorder in front of it.
* `ConnectionInfo.open_course` — the course of opening a connection and of opening it again.
-/

namespace SqlAssembly

variable {World Pool Error : Type}

namespace Opener

/-- Attempts that fail, each with its error and in the world that the one before has left. -/
inductive Fails (opener : Opener World Pool Error) : World → List (Endpoint × Error) → World → Prop where
  | none {world : World} : Fails opener world [] world
  | next {endpoint : Endpoint} {error : Error} {failed : List (Endpoint × Error)} {world left after : World} :
      opener endpoint.url world = (.error error, left) → Fails opener left failed after →
      Fails opener world ((endpoint, error) :: failed) after

/-- The two courses of trying endpoints in order: those that were attempted, and the answer with the world
after it. -/
inductive Course (opener : Opener World Pool Error) (closed : Error) (world : World) :
    (tried attempted : List Endpoint) → Except Error Pool × World → Prop where
  -- One can be opened after others have failed, and the later ones are not attempted.
  | opened (failed : List (Endpoint × Error)) (later : List Endpoint) {endpoint : Endpoint}
      {left after : World} {pool : Pool} :
      opener.Fails world failed left → opener endpoint.url left = (.ok pool, after) →
      Course opener closed world (failed.map Prod.fst ++ endpoint :: later)
        (failed.map Prod.fst ++ [endpoint]) (.ok pool, after)
  -- None can be opened, and the last error counts.
  | exhausted {failed : List (Endpoint × Error)} {after : World} :
      opener.Fails world failed after →
      Course opener closed world (failed.map Prod.fst) (failed.map Prod.fst)
        (.error ((failed.map Prod.snd).getLast?.getD closed), after)

/-- An opener that keeps the URLs that it is given, in order. -/
def recording (opener : Opener World Pool Error) : Opener (World × List String) Pool Error :=
  fun url (world, log) =>
    let (outcome, after) := opener url world
    (outcome, after, log ++ [url])

variable {opener : Opener World Pool Error}

/-- An attempt that fails comes in front of what becomes of the other endpoints.  Its error counts if none
of them is attempted. -/
theorem Course.after_failure {endpoint : Endpoint} {error closed : Error} {world left : World}
    {tried attempted : List Endpoint} {answer : Except Error Pool × World}
    (failed : opener endpoint.url world = (.error error, left))
    (course : opener.Course error left tried attempted answer) :
    opener.Course closed world (endpoint :: tried) (endpoint :: attempted) answer := by
  cases course with
  | opened failures later fails opens => exact .opened ((endpoint, error) :: failures) later (.next failed fails) opens
  | exhausted fails =>
    have course : opener.Course closed world _ _ _ := .exhausted (.next failed fails)
    rwa [List.map_cons, List.map_cons, List.getLast?_cons, Option.getD_some] at course

end Opener

theorem firstOpen_course (opener : Opener World Pool Error) (last : Error) (endpoints : List Endpoint)
    (world : World) :
    ∃ attempted,
      opener.Course last world (endpoints.filter (·.isTried)) attempted (firstOpen opener last endpoints world) ∧
      ∀ log, firstOpen opener.recording last endpoints (world, log) =
        ((firstOpen opener last endpoints world).1,
          (firstOpen opener last endpoints world).2, log ++ attempted.map Endpoint.url) := by
  induction endpoints generalizing last world with
  | nil => exact ⟨[], .exhausted .none, fun log => by simp [firstOpen]⟩
  | cons endpoint rest inductionHypothesis =>
    by_cases isTried : endpoint.isTried = true
    · rcases attempt : opener endpoint.url world with ⟨outcome, left⟩
      have seen (log : List String) :
          opener.recording endpoint.url (world, log) = (outcome, left, log ++ [endpoint.url]) := by
        simp [Opener.recording, attempt]
      rw [List.filter_cons_of_pos isTried]
      cases outcome with
      | ok pool =>
        refine ⟨[endpoint], ?_, fun log => ?_⟩
        · simp only [firstOpen, if_pos isTried, attempt]
          exact .opened [] _ .none attempt
        · simp only [firstOpen, if_pos isTried, attempt, seen]
          rfl
      | error error =>
        obtain ⟨attempted, course, recorded⟩ := inductionHypothesis error left
        refine ⟨endpoint :: attempted, ?_, fun log => ?_⟩
        · simp only [firstOpen, if_pos isTried, attempt]
          exact course.after_failure attempt
        · simp only [firstOpen, if_pos isTried, attempt, seen, recorded]
          simp
    · obtain ⟨attempted, course, recorded⟩ := inductionHypothesis last world
      refine ⟨attempted, ?_, fun log => ?_⟩
      · rw [List.filter_cons_of_neg isTried]
        simpa only [firstOpen, if_neg isTried] using course
      · simpa only [firstOpen, if_neg isTried] using recorded log

/-- **Backups are tried in order.**  The endpoints of a connection are its primary one and then those of its
backup.  Of them, those whose driver is unknown or native are attempted one after another.  The first that
can be opened gives the pool, and none behind it is attempted; where none can, the error is that of the last
attempt, or that of a closed connection if there was none.  To open a connection again takes the same course:
the pool is replaced if one could be opened, and is kept otherwise. -/
theorem ConnectionInfo.open_course (info : ConnectionInfo) :
    let tried := (info.primary :: info.backups).filter fun endpoint => endpoint.driver ∈ ["", "sqlite"]
    (∀ backup, (info.withBackup backup).candidates = info.primary :: backup.candidates) ∧
      (∀ (closed : Error) (opener : Opener World Pool Error) (world : World), ∃ attempted,
        opener.Course closed world tried attempted (firstOpen opener closed info.candidates world) ∧
        ∀ log, firstOpen opener.recording closed info.candidates (world, log) =
          ((firstOpen opener closed info.candidates world).1,
            (firstOpen opener closed info.candidates world).2, log ++ attempted.map Endpoint.url)) ∧
      ∀ (engine : Engine World Pool) (pool : Pool) (world : World), ∃ attempted outcome after,
        Opener.Course engine.openUrl .closed world tried attempted (outcome, after) ∧
        info.openWith engine.openUrl world = (outcome, after) ∧
        ((∃ fresh, outcome = .ok fresh ∧
            engine.reopen ⟨info, pool, world⟩ = (.ok (), ⟨info, fresh, after⟩)) ∨
          ∃ error, outcome = .error error ∧
            engine.reopen ⟨info, pool, world⟩ = (.error (.ofDatabase error), ⟨info, pool, after⟩)) := by
  intro tried
  have same : tried = info.candidates.filter (·.isTried) := by
    refine List.filter_congr fun endpoint _ => Bool.eq_iff_iff.mpr ?_
    simp only [Endpoint.isTried, Bool.or_eq_true, decide_eq_true_eq]
    simp [Endpoint.nativeDriver]
  rw [same]
  refine ⟨fun backup => rfl, fun closed opener world => firstOpen_course opener closed info.candidates world, ?_⟩
  intro engine pool world
  obtain ⟨attempted, course, -⟩ := firstOpen_course engine.openUrl .closed info.candidates world
  rcases opened : info.openWith engine.openUrl world with ⟨outcome, after⟩
  refine ⟨attempted, outcome, after, opened ▸ course, rfl, ?_⟩
  cases outcome with
  | ok fresh => exact .inl ⟨fresh, rfl, by simp only [Engine.reopen, opened]⟩
  | error error => exact .inr ⟨error, rfl, by simp only [Engine.reopen, opened]⟩

end SqlAssembly
