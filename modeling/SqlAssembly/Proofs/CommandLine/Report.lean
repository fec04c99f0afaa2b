import SqlAssembly.CommandLine.Outcome
import SqlAssembly.Memory.Database
import SqlAssembly.Proofs.Success

/-! # What is printed of a reply

Whether a reply is rows or a change is told twice: from the keywords of the statement when the reply
becomes a result set, and from the columns of the result set when it is printed.  Only rows have
columns, and only the first row tells them.  So rows are printed as rows, and a change as a change,
but no rows at all are printed as if they were a change of nothing.  The log is printed to the same
place: in front of the report stands what is shown of opening the database and of running the
statement.

* `Reply.IsTable` — rows with names for their columns, the same for all.
* `report_toResultSet` — what is printed of a reply.
* `Engine.Replies`, `Command.Gives` — the reply that a run ends with, and the statement of a command.
* `Invocation.outcome_of_replies` — what an invocation prints.
-/

namespace SqlAssembly

/-! ## Replies as rows -/

namespace Reply

variable {reply : Reply}

structure IsTable (reply : Reply) : Prop where
  named : ∀ row ∈ reply.rows, row.columns ≠ []
  uniform : ∀ row ∈ reply.rows, row.columns = reply.columns

theorem IsTable.columns_eq_nil_iff (table : reply.IsTable) : reply.columns = [] ↔ reply.rows = [] := by
  cases rows : reply.rows with
  | nil => simp [columns, rows]
  | cons row others =>
    have member : row ∈ reply.rows := by simp [rows]
    simpa [table.uniform row member] using table.named row member

/-- The rows of a result set are put together again from its columns and its values. -/
theorem IsTable.fetchAll_toResultSet (table : reply.IsTable) :
    (reply.toResultSet true).fetchAll.1 = reply.rows := by
  have rebuilt : (reply.toResultSet true).fetchAll.1 =
      reply.rows.map fun row => ⟨reply.columns, row.values⟩ := by
    simp [toResultSet, ResultSet.ofRows, ResultSet.fetchAll, ResultSet.fetchAllValues]
  rw [rebuilt]
  refine (List.map_congr_left fun row member => ?_).trans (List.map_id reply.rows)
  rw [← table.uniform row member]
  rfl

end Reply

/-! ## The reply of a run -/

section

variable {World Pool : Type} {engine : Engine World Pool} {statement : Statement} {reply : Reply}

/-- A run of a statement ends with a reply: the first one or, where the connection was lost and could be
opened again, the second. -/
inductive Engine.Replies (engine : Engine World Pool) (connection : Connection World Pool)
    (statement : Statement) : Reply → Prop where
  | first {reply : Reply} {pool : Pool} :
      engine.execute connection.pool statement.sql statement.params = (.ok reply, pool) →
      Replies engine connection statement reply
  | second {reply : Reply} {error : DatabaseError} {lost pool : Pool} {fresh : Connection World Pool} :
      engine.execute connection.pool statement.sql statement.params = (.error error, lost) →
      error.isLost = true → engine.reopen { connection with pool := lost } = (.ok (), fresh) →
      engine.execute fresh.pool statement.sql statement.params = (.ok reply, pool) →
      Replies engine connection statement reply

namespace Engine

variable {connection : Connection World Pool} {pool : Pool}

theorem answer_of_ok
    (replied : engine.execute connection.pool statement.sql statement.params = (.ok reply, pool)) :
    engine.answer connection statement.sql statement.params =
      (.ok (reply.toResultSet (returnsRows statement.sql)), { connection with pool := pool }) := by
  rw [answer, replied]
  rfl

theorem answer_of_isLost {error : DatabaseError} (isLost : error.isLost = true)
    (lost : engine.execute connection.pool statement.sql statement.params = (.error error, pool)) :
    engine.answer connection statement.sql statement.params =
      (.error (.connection error.message), { connection with pool := pool }) := by
  have sorted : BackendError.ofDatabase error = .connection error.message := if_pos isLost
  rw [answer, lost, ← sorted]
  rfl

/-! ### What is logged of a success -/

theorem openingLog_of_opened {endpoint : Endpoint} {closed : DatabaseError} {world after : World}
    (opened : firstOpen engine.openUrl closed [endpoint] world = (.ok pool, after)) :
    engine.openingLog [endpoint] world = engine.log.opening endpoint.url world ++ [endpoint.successNote] := by
  rw [firstOpen] at opened
  rw [openingLog]
  split at opened
  · rename_i isTried
    rw [if_pos isTried]
    split at opened
    · rename_i attempt
      rw [attempt]
    · simp [firstOpen] at opened
  · simp [firstOpen] at opened

theorem attemptsLog_of_ok
    (replied : engine.execute connection.pool statement.sql statement.params = (.ok reply, pool)) :
    engine.attemptsLog connection statement.sql statement.params =
      engine.log.executing connection.pool statement.sql statement.params := by
  rw [attemptsLog, answer_of_ok replied, List.append_nil]

end Engine

theorem Session.run_of_replies {session : Session (Connection World Pool)}
    (within : session.backend = engine.backend) (replies : engine.Replies session.state statement reply) :
    (session.run statement).1 = .ok (reply.toResultSet (returnsRows statement.sql)) := by
  have answered : ∃ after, session.backend.executeRetrying session.state statement.sql statement.params =
      (.ok (reply.toResultSet (returnsRows statement.sql)), after) := by
    rw [within]
    cases replies with
    | first replied =>
      simp [Backend.executeRetrying, Engine.backend, Engine.answer_of_ok replied]
    | second lost isLost opened replied =>
      simp [Backend.executeRetrying, Engine.backend, Engine.answer_of_isLost isLost lost, opened,
        Engine.answer_of_ok replied]
  obtain ⟨after, answered⟩ := answered
  simp only [run, answered]
  rfl

end

/-! ## Printing -/

namespace CommandLine

variable {World Pool : Type} {engine : Engine World Pool} {world : World} {i : Invocation}
  {session : Session (Connection World Pool)} {statement : Statement} {reply : Reply}

/-- Rows as they are printed. -/
def listing (rows : List Row) : String := (Json.array (rows.map Row.toJson)).pretty ++ "\n"

theorem listing_nil : listing [] = "[]\n" := by
  simp [listing, Json.pretty, Json.prettyAt, Json.prettyItems, Json.bracketed]

/-- Of no rows it is not told that there are none. -/
theorem report_toResultSet (table : reply.IsTable) (givesRows verbose : Bool) :
    report verbose (reply.toResultSet givesRows) =
      if givesRows then (if reply.rows = [] then [.entry (changeEntry 0)] else [.text (listing reply.rows)])
      else shown verbose [changeEntry reply.affected, identityEntry reply.lastId] := by
  cases givesRows with
  | false => rfl
  | true =>
    have columns : (reply.toResultSet true).columns = reply.columns := rfl
    have changed : shown verbose (changeEntry (reply.toResultSet true).affected ::
        (reply.toResultSet true).lastId.toList.map identityEntry) = [.entry (changeEntry 0)] := rfl
    simp only [report, columns, changed, List.isEmpty_iff, table.columns_eq_nil_iff,
      table.fetchAll_toResultSet]
    rfl

/-- The statement that a command runs, if it runs one. -/
inductive Command.Gives : Command → Statement → Prop where
  | request {request : StatementRequest} {steps : List Step} {statement : Statement} :
      request.steps = .ok steps → ((Query.start .sqlite).extend steps).build = .ok statement →
      Gives (.run request) statement
  | text {sql : String} {params : Option String} {f : Fragment} :
      Fragment.conform (.parts [.sql sql, .params (execParams params)]) .newline = .ok f →
      Gives (.exec sql params) (.raw f)

theorem ofDriver_nativeDriver (mode : QuoteMode) : Dialect.ofDriver Endpoint.nativeDriver mode = .ok .sqlite := by
  have lower : Text.asciiLower "sqlite" = "sqlite" := by decide
  simp [Dialect.ofDriver, Endpoint.nativeDriver, lower]

theorem items_of_openSession (native : Session.refusedDriver? (.ofUrl i.database) = none) :
    (openSession engine world i).items = shown i.verbose (engine.openingLog [.ofUrl i.database] world) := by
  simp only [openSession, native]
  rfl

/-- A session that could be opened runs in the engine and speaks the dialect of its driver. -/
theorem openSession_of_ok (opened : (openSession engine world i).result = .ok session) :
    session.backend = engine.backend ∧ session.dialect = .sqlite ∧
      (openSession engine world i).items = shown i.verbose (engine.openingLog [.ofUrl i.database] world) ∧
      ∃ after, (ConnectionInfo.ofUrl i.database).openWith engine.openUrl world =
        (.ok session.state.pool, after) := by
  have connected : Session.connect engine (.ofUrl i.database) { mode := i.mode } world = .ok session := by
    rw [openSession] at opened
    cases connected : Session.connect engine (.ofUrl i.database) { mode := i.mode } world with
    | error error => simp [connected, Except.mapError] at opened
    | ok fresh => simpa [connected, Except.mapError] using opened
  rw [Session.connect] at connected
  split at connected
  · cases connected
  · rename_i native
    rw [Session.connectAny] at connected
    split at connected
    · rename_i pool after opening
      obtain ⟨dialect, spoken, started⟩ := exists_of_bind_eq_ok connected
      cases started
      cases (ofDriver_nativeDriver i.mode).symm.trans spoken
      exact ⟨rfl, rfl, items_of_openSession native, after, opening⟩
    · cases connected

theorem reportRun_of_ok {assembled : Except AssemblyError Statement} {result : ResultSet} (verbose : Bool)
    (finished : assembled = .ok statement) (run : (session.run statement).1 = .ok result) :
    reportRun engine verbose session assembled =
      ⟨shown verbose (engine.runLog session.state statement) ++ report verbose result, .ok ()⟩ := by
  have given : (orFail (assembled.mapError .assembly)).result = .ok statement := by
    rw [finished]
    rfl
  have ran : (orFail (session.run statement).1).result = .ok result := by
    rw [run]
    rfl
  rw [reportRun, Printing.bind_of_ok given, Printing.bind_of_ok rfl, Printing.bind_of_ok ran]
  rfl

theorem print_of_gives (opened : (openSession engine world i).result = .ok session)
    (gives : i.command.Gives statement) {result : ResultSet} (run : (session.run statement).1 = .ok result) :
    i.print engine world =
      ⟨(openSession engine world i).items ++ (shown i.verbose (engine.runLog session.state statement) ++
        report i.verbose result), .ok ()⟩ := by
  have begins : session.begin = .start .sqlite := by rw [Session.begin, (openSession_of_ok opened).2.1]
  rw [Invocation.print]
  generalize i.command = command at gives
  cases gives with
  | request read built =>
    have steps : (Printing.silently (StatementRequest.steps _)).result = .ok _ := read
    simp only [Printing.bind_of_ok opened, Printing.bind_of_ok steps, begins,
      reportRun_of_ok i.verbose built run]
    rfl
  | text conformed =>
    have finished := congrArg (Except.map Statement.raw) conformed
    simp only [Printing.bind_of_ok opened, reportRun_of_ok i.verbose finished run]

/-- Nothing is shown in front of a first reply if nothing is asked for, nothing is wrong with the
statement, and the engine keeps silent. -/
theorem shown_of_silent (silent : engine.log = {}) (matching : statement.mismatch? = none) {pool : Pool}
    {closed : DatabaseError} {endpoint : Endpoint} {after : World}
    (opened : firstOpen engine.openUrl closed [endpoint] world = (.ok session.state.pool, after))
    (replied : engine.execute session.state.pool statement.sql statement.params = (.ok reply, pool)) :
    shown false (engine.openingLog [endpoint] world ++ engine.runLog session.state statement) = [] := by
  rw [Engine.openingLog_of_opened opened, Engine.runLog, matching, Engine.attemptsLog_of_ok replied, silent]
  rfl

/-- **What an invocation prints.**  A statement runs, and the run ends with a reply.  Behind what is shown
of the log stand the rows of the reply if the statement gives rows and there are any, and otherwise the
entry for a change: that of the reply, or that of no rows where the statement gives rows.  So the reply to
a statement that gives rows is printed as its rows if and only if it has one, in any layout of the log that
tells the two apart.  The log in front is empty where no more is asked for, the engine adds nothing, and the
first try of a statement whose parameters match its placeholders gives the reply. -/
theorem Invocation.outcome_of_replies (opened : (openSession engine world i).result = .ok session)
    (gives : i.command.Gives statement) (replies : engine.Replies session.state statement reply)
    (table : reply.IsTable) :
    let log := shown i.verbose
      (engine.openingLog [.ofUrl i.database] world ++ engine.runLog session.state statement)
    let reported :=
      if returnsRows statement.sql then
        (if reply.rows = [] then [.entry (changeEntry 0)] else [.text (listing reply.rows)])
      else shown i.verbose [changeEntry reply.affected, identityEntry reply.lastId]
    i.print engine world = ⟨log ++ reported, .ok ()⟩ ∧
      (∀ layout, i.outcome engine world layout = .printed (printedText layout log ++ printedText layout reported)) ∧
      (returnsRows statement.sql = true → ∀ layout, layout (changeEntry 0) ≠ listing [] →
        (i.outcome engine world layout = .printed (printedText layout log ++ listing reply.rows) ↔
          reply.rows ≠ [])) ∧
      (i.verbose = false → engine.log = {} → statement.mismatch? = none →
        ∀ pool, engine.execute session.state.pool statement.sql statement.params = (.ok reply, pool) →
          log = []) := by
  intro log reported
  obtain ⟨within, -, opening, after, opens⟩ := openSession_of_ok opened
  have printed : i.print engine world = ⟨log ++ reported, .ok ()⟩ := by
    rw [print_of_gives opened gives (Session.run_of_replies within replies), report_toResultSet table,
      opening, ← List.append_assoc, ← shown_append]
  have outcome (layout : LogEntry → String) : i.outcome engine world layout =
      .printed (printedText layout log ++ printedText layout reported) := by
    rw [Invocation.outcome, printed, ← printedText_append]
  refine ⟨printed, outcome, fun givesRows layout differ => ?_, fun quiet silent matching pool replied => ?_⟩
  · rw [outcome, Outcome.printed.injEq, String.append_right_inj]
    simp only [reported, if_pos givesRows]
    by_cases none : reply.rows = []
    · rw [if_pos none, none]
      exact iff_of_false (fun same => differ (by simpa [printedText] using same)) (fun some => some rfl)
    · rw [if_neg none]
      exact iff_of_true (by simp [printedText]) none
  · simp only [log, quiet]
    exact shown_of_silent silent matching opens replied

/-- A parameter that comes back under the name that the statement gives it, where more is asked for. -/
theorem Invocation.outcome_of_replies_exec :
    let i : Invocation := ⟨Memory.url, "mysql", .native, true, .exec "SELECT ? AS a" (some "[\"x\"]")⟩
    let session : Memory.MemorySession :=
      ⟨Memory.engine.backend, ⟨.ofUrl Memory.url, some .empty, ()⟩, .sqlite, .empty 1024 250, none⟩
    let statement : Statement := .raw ⟨"SELECT ? AS a", [.text "x"]⟩
    let reply : Reply := { rows := [⟨["a"], [.text "x"]⟩] }
    (openSession Memory.engine () i).result = .ok session ∧ i.command.Gives statement ∧
      Memory.engine.Replies session.state statement reply ∧ reply.IsTable ∧
      returnsRows statement.sql = true ∧ LogEntry.line (changeEntry 0) ≠ listing [] ∧
      i.outcome Memory.engine () = .printed ("DEBUG Connected url=sqlite::memory:\n" ++
        "DEBUG Executing SQL sql=SELECT ? AS a params=1\n" ++ "[\n  \x7b\n    \"a\": \"x\"\n  \x7d\n]\n") := by
  intro i session statement reply
  have opened : (openSession Memory.engine () i).result = .ok session := by
    have native : Session.refusedDriver? (.ofUrl i.database) = none := by decide
    have pool : (ConnectionInfo.ofUrl i.database).openWith Memory.engine.openUrl () = (.ok (some .empty), ()) := by
      decide
    have dialect : Dialect.ofDriver Memory.engine.backend.driver i.mode = .ok .sqlite :=
      ofDriver_nativeDriver i.mode
    simp only [openSession, Session.connect, native, Session.connectAny, pool, Session.adopt, Session.start,
      dialect]
    rfl
  have gives : i.command.Gives statement := .text (by decide +kernel)
  have replies : Memory.engine.Replies session.state statement reply :=
    @Engine.Replies.first _ _ _ _ _ reply (some .empty) (by decide +kernel)
  have table : reply.IsTable := ⟨by simp [reply], by simp [reply, Reply.columns]⟩
  have givesRows : returnsRows statement.sql = true := by decide
  have differ : LogEntry.line (changeEntry 0) ≠ listing [] := by
    rw [listing_nil]
    decide
  refine ⟨opened, gives, replies, table, givesRows, differ, ?_⟩
  have printed := ((outcome_of_replies opened gives replies table).2.2.1 givesRows LogEntry.line differ).mpr nofun
  rw [printed]
  decide +kernel

/-- A select that finds nothing gives rows, and is reported as a change. -/
theorem outcomeOf_hides_no_rows :
    returnsRows "SELECT *\nFROM \"sqlite_master\"" = true ∧
      (Memory.execute (some .empty) "SELECT *\nFROM \"sqlite_master\"" []).1 = .ok {} ∧
      outcomeOf Memory.engine () ["-d", "sqlite::memory:", "select", "sqlite_master"] =
        .printed " INFO 0 row(s) affected\n" ∧
      listing [] = "[]\n" := by
  refine ⟨by decide, by decide +kernel, by decide +kernel, listing_nil⟩

end CommandLine

end SqlAssembly
