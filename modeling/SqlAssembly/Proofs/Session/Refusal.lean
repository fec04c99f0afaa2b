import SqlAssembly.Proofs.Query.Failure
import SqlAssembly.Proofs.Query.Restriction
import SqlAssembly.Proofs.Session.Recording
import SqlAssembly.Session.Reading
import SqlAssembly.Session.Script

/-! # Queries that are refused

A query that cannot be assembled is refused before the backend is asked for anything.  Some
readings alter a query before they run it: they limit it to one row, or select something else.
That mends nothing, for a select from a table can always be assembled, and no other statement
reads what is selected or, over a table, how many rows are wanted.

* `Draft.build_select`, `Draft.build_limit` — the alterations of a reading keep an error.
* `Session.Refuses` — a session refuses a query, whichever operation is given it.
* `Query.failure_latches` — the failure of a query, from the step that fails to the session.
-/

namespace SqlAssembly

/-! ## Altered queries -/

namespace Draft

theorem exists_buildSelect {d : Draft} (target : d.targetsTable = true) :
    ∃ s, d.buildSelect = .ok s := by
  obtain ⟨source, given⟩ := Option.isSome_iff_exists.mp target
  cases source with
  | tables tokens =>
    simp only [buildSelect, sourceWithJoins, sourceFragment, given]
    exact ⟨_, rfl⟩
  | subquery f =>
    simp only [buildSelect, sourceWithJoins, sourceFragment, given]
    exact ⟨_, rfl⟩

/-- Of the drafts with a table only those that are no select can fail to be assembled. -/
theorem isChange_of_targetsTable {d : Draft} {e : AssemblyError} (target : d.targetsTable = true)
    (failed : d.build = .error e) : d.isChange = true := by
  by_contra reads
  obtain ⟨s, selected⟩ := exists_buildSelect target
  simp only [isChange, Bool.or_eq_true, not_or, Bool.not_eq_true, Option.isSome_eq_false_iff,
    Option.isNone_iff_eq_none] at reads
  obtain ⟨⟨⟨error, deletes⟩, insertion⟩, assignment⟩ := reads
  simp [build, error, deletes, insertion, assignment, target, selected] at failed

theorem build_limit {d : Draft} {e : AssemblyError} (target : d.targetsTable = true)
    (failed : d.build = .error e) (count : Nat) : { d with limit := some count }.build = .error e := by
  rw [← failed]
  exact d.build_reread (isChange_of_targetsTable target failed) d.selection d.order (some count) d.offset

theorem build_select {d : Draft} {e : AssemblyError} (failed : d.build = .error e)
    (selection : Selection) : (d.select selection).build = .error e := by
  cases target : d.targetsTable with
  | true =>
    rw [← failed]
    exact d.build_reread (isChange_of_targetsTable target failed) (some selection) d.order d.limit d.offset
  | false =>
    -- without a table nothing reads what is selected
    have targetToo : (d.select selection).targetsTable = false := target
    rw [← failed]
    simp only [build, target, targetToo, Bool.false_eq_true, if_false]
    rfl

end Draft

namespace Query

variable {query : Query} {e : AssemblyError}

theorem build_singleRow (failed : query.build = .error e) : query.singleRow.build = .error e := by
  rw [singleRow]
  split
  · rename_i limited
    rw [build_eq] at failed ⊢
    rw [draft_extend]
    simp only [Step.applyAll, Step.apply]
    exact Draft.build_limit (by simp_all) failed 1
  · exact failed

theorem build_select (failed : query.build = .error e) (selection : Selection) :
    (query.extend [.select selection]).build = .error e := by
  rw [build_eq] at failed ⊢
  rw [draft_extend]
  simp only [Step.applyAll, Step.apply]
  exact Draft.build_select failed selection

theorem build_probe (failed : query.build = .error e) : query.probe.build = .error e := by
  rw [probe]
  split
  · exact build_select failed (.expression "1")
  · exact failed

theorem build_counting (failed : query.build = .error e) : query.counting.build = .error e :=
  build_select failed (.expression "COUNT(*)")

end Query

/-! ## Refusing sessions -/

namespace Session

variable {State : Type} {s : Session State} {q : Query} {e : AssemblyError}

/-- Every operation that is given the query answers with the error, and leaves the session and the
state of its backend as they were. -/
structure Refuses (s : Session State) (q : Query) (e : AssemblyError) : Prop where
  query : s.query q = (.error (.assembly e), s)
  row : s.row q = (.error (.assembly e), s)
  numeric : s.numeric q = (.error (.assembly e), s)
  rows : s.rows q = (.error (.assembly e), s)
  numerics : s.numerics q = (.error (.assembly e), s)
  value : s.value q = (.error (.assembly e), s)
  column : s.column q = (.error (.assembly e), s)
  exists? : s.exists? q = (.error (.assembly e), s)
  keyToRecord : ∀ key, s.keyToRecord q key = (.error (.assembly e), s)
  keyToColumn : ∀ key column, s.keyToColumn q key column = (.error (.assembly e), s)
  count : s.count q = (.error (.assembly e), s)
  insert : s.insert q = (.error (.assembly e), s)
  changed : s.changed q = (.error (.assembly e), s)

theorem query_of_failed (s : Session State) (failed : q.build = .error e) :
    s.query q = (.error (.assembly e), s) := by
  rw [Session.query, failed]
  rfl

theorem row_of_failed (s : Session State) (failed : q.build = .error e) :
    s.row q = (.error (.assembly e), s) := by
  rw [row, s.query_of_failed (Query.build_singleRow failed), Answer.map_error]

theorem numeric_of_failed (s : Session State) (failed : q.build = .error e) :
    s.numeric q = (.error (.assembly e), s) := by
  rw [numeric, s.query_of_failed (Query.build_singleRow failed), Answer.map_error]

theorem value_of_failed (s : Session State) (failed : q.build = .error e) :
    s.value q = (.error (.assembly e), s) := by
  rw [value, s.numeric_of_failed failed, Answer.map_error]

theorem refuses_of_failed (s : Session State) (failed : q.build = .error e) :
    s.Refuses q e := by
  have refused := s.query_of_failed failed
  constructor
  case query => exact refused
  case row => exact s.row_of_failed failed
  case numeric => exact s.numeric_of_failed failed
  case value => exact s.value_of_failed failed
  case exists? =>
    rw [Session.exists?, s.row_of_failed (Query.build_probe failed), Answer.map_error]
  case count =>
    rw [count, s.value_of_failed (Query.build_counting failed), Answer.check_error]
  case keyToRecord =>
    intro key
    rw [keyToRecord, refused, Answer.check_error]
  case keyToColumn =>
    intro key column
    rw [keyToColumn, refused, Answer.check_error]
  case rows | numerics | column | insert | changed =>
    simp only [Session.rows, Session.numerics, Session.column, Session.insert, changed, refused,
      Answer.map_error]

end Session

/-- **A failure stays, spreads outwards and is never run.**  The error of a query is the failure of
its first step that fails.  Further steps do not change it, and every query around it has it too.
A query that cannot be assembled, for this reason or another one, is refused by every operation of
every session, and a recorder in front of the backend sees nothing. -/
theorem Query.failure_latches (query : Query) :
    query.draft.error = query.firstFailure? ∧
      (∀ e, query.draft.error = some e → ∀ more,
        (query.extend more).draft.error = some e ∧ (query.extend more).build = .error e) ∧
      ∀ e, query.build = .error e →
        (∀ outer, Relation.TransGen Takes outer query →
          outer.draft.error = some e ∧ outer.build = .error e) ∧
        ∀ {State : Type} (s : Session State),
          s.Refuses query e ∧ ∀ log, (s.recorded log).Refuses query e := by
  refine ⟨query.error_draft, fun e latched more => ?_, fun e failed => ⟨fun outer takes => ?_, ?_⟩⟩
  · have stays := error_extend latched more
    exact ⟨stays, build_of_error stays⟩
  · have reached := error_of_takes takes failed
    exact ⟨reached, build_of_error reached⟩
  · intro State s
    exact ⟨s.refuses_of_failed failed, fun log => (s.recorded log).refuses_of_failed failed⟩

/-- An empty list of values refuses a query, the join that the query is the target of, and a delete
whose condition the joined query is. -/
theorem Query.failure_latches_nested :
    let inner : Query := .mk .sqlite [.setTable "visits", .filterEq "page" (.list [])]
    let middle : Query := .mk .mysql [.setTable "users", .join (.subquery inner) .left none, .limit 3]
    let outer : Query := .mk .generic [.setTable "users", .filterSubquery middle, .delete]
    let s : Session Script := ⟨Script.backend "sqlite", {}, .sqlite, .empty 8 16, none⟩
    inner.draft.error = some (.emptyInList "page") ∧
      (inner.extend [.filter (.id 7) {}]).build = .error (.emptyInList "page") ∧
      outer.draft.error = some (.emptyInList "page") ∧
      (s.recorded []).exists? inner =
        (.error (.assembly (.emptyInList "page")), s.recorded []) := by
  intro inner middle outer s
  obtain ⟨first, stays, spreads⟩ := Query.failure_latches inner
  have latched : inner.draft.error = some (.emptyInList "page") := first.trans (by decide +kernel)
  obtain ⟨reached, refused⟩ := spreads _ (build_of_error latched)
  have middleTakes : middle.Takes inner :=
    ⟨[.setTable "users"], _, [.limit 3], rfl, by decide +kernel, .joinTarget .left none⟩
  have outerTakes : outer.Takes middle :=
    ⟨[.setTable "users"], _, [.delete], rfl, by decide +kernel, .filter {} (.subquery middle)⟩
  refine ⟨latched, (stays _ latched _).2, ?_, ((refused s).2 []).exists?⟩
  exact (reached outer (.tail (.single outerTakes) middleTakes)).1

end SqlAssembly
