import SqlAssembly.Proofs.Query.Layout
import SqlAssembly.Proofs.Query.Restriction
import SqlAssembly.Session.Reading
import SqlAssembly.Session.Script

/-! # Counting rows

A count selects `COUNT(*)` in place of what its query selects, limits it to one row where there is no
limit, and takes the first value of the first row.  A select from a table keeps everything else.  So it
also keeps its offset and a limit of its own, and there they apply to the one row with the number.  Any
other query is run as it is, and the first value is one of its own.

* `Draft.selectStatement` — a select by what it selects and by the lines that limit it.
* `Query.build_counted`, `Query.build_counted_of_not_select` — the statement that a count runs.
* `window` — rows under a limit and an offset.
* `Session.count_eq` — what a count runs and what it answers.
-/

namespace SqlAssembly

/-! ## Selects -/

namespace Draft

/-- The line with the conditions. -/
def whereLine (d : Draft) : Fragment :=
  if d.consolidated.isBlank then .empty else d.consolidated.prefixed "WHERE "

theorem withConditions_eq (d : Draft) (statement : Fragment) :
    d.withConditions statement = statement.append d.whereLine "\n" := by
  simp only [withConditions, whereLine]
  split
  · simp [Fragment.append, Fragment.empty]
  · rfl

/-- The select from a source under the conditions of a draft, in its groups and its order. -/
def selectStatement (d : Draft) (selected source limits : Fragment) : Statement :=
  let lines := [d.whereLine, d.groupLine, d.havingLine, d.orderLine, limits, d.lockLine]
  ⟨.select,
    ⟨d.enclosed (selected.sql ++ "\nFROM " ++ source.sql ++ furtherLines lines),
      selected.params ++ source.params ++ lines.flatMap Fragment.params⟩⟩

end Draft

theorem Fragment.params_foldl_lines (f : Fragment) (lines : List Fragment) :
    (lines.foldl (fun f line => f.append line "\n") f).params = f.params ++ lines.flatMap params := by
  induction lines generalizing f with
  | nil => rw [List.foldl_nil, List.flatMap_nil, List.append_nil]
  | cons line lines inductionHypothesis =>
    rw [List.foldl_cons, inductionHypothesis, params_separated, List.flatMap_cons, List.append_assoc]

namespace Draft

theorem params_aliased (d : Draft) (f : Fragment) : (d.aliased f).params = f.params := by
  unfold aliased
  split <;> rfl

theorem buildSelect_eq {d : Draft} {source : Fragment} (given : d.sourceWithJoins = .ok source) :
    d.buildSelect = .ok (d.selectStatement d.selectFragment source d.limitLine) := by
  let lines := [d.whereLine, d.groupLine, d.havingLine, d.orderLine, d.limitLine, d.lockLine]
  let front := d.selectFragment.append (source.prefixed "FROM ") "\n"
  have begun : front.sql.isEmpty = false := Fragment.isEmpty_append d.isEmpty_selectFragment _ _
  have sql : front.sql = d.selectFragment.sql ++ "\nFROM " ++ source.sql := by
    simp only [front, Fragment.append]
    rw [if_neg (by simp [Fragment.isEmpty_prefixed]), if_neg (by simp [isEmpty_selectFragment])]
    simp only [Fragment.prefixed, String.append_assoc]
    rfl
  have params : front.params = d.selectFragment.params ++ source.params := Fragment.params_separated _ _ _
  have built : d.buildSelect =
      .ok ⟨.select, d.aliased (lines.foldl (fun f line => f.append line "\n") front)⟩ := by
    unfold buildSelect
    rw [given]
    simp only [lines, List.foldl_cons, ← withConditions_eq]
    rfl
  rw [built, selectStatement, ← sql, ← params, ← Fragment.sql_foldl_lines begun,
    ← Fragment.params_foldl_lines, ← sql_aliased, ← params_aliased d]

theorem exists_source_of_select {d : Draft} {st : Statement} (built : d.build = .ok st)
    (select : st.kind = .select) : ∃ source, d.sourceWithJoins = .ok source ∧
      st = d.selectStatement d.selectFragment source d.limitLine := by
  have assembled := assembly_of_build built
  simp only [select] at assembled
  have sourced := assembled
  unfold buildSelect at sourced
  obtain ⟨source, given, -⟩ := exists_of_bind_eq_ok sourced
  rw [buildSelect_eq given] at assembled
  cases assembled
  exact ⟨source, given, rfl⟩

theorem reads_of_select {d : Draft} {st : Statement} (built : d.build = .ok st)
    (select : st.kind = .select) : d.isChange = false ∧ d.targetsTable = true := by
  unfold build at built
  split at built
  · cases built
  · rename_i fine
    split at built
    · simp [kind_of_buildDelete built] at select
    · rename_i remains
      split at built
      · simp [kind_of_buildInsert built] at select
      · simp [kind_of_buildUpdate built] at select
      · rename_i noInsertion noAssignment
        split at built
        · rename_i target
          exact ⟨by simp [isChange, fine, remains, noInsertion, noAssignment], target⟩
        · simp [kind_of_buildRaw built] at select

theorem build_of_reads {d : Draft} (reads : d.isChange = false) (target : d.targetsTable = true) :
    d.build = d.buildSelect := by
  simp only [isChange, Bool.or_eq_false_iff, Option.isSome_eq_false_iff, Option.isNone_iff_eq_none] at reads
  obtain ⟨⟨⟨fine, remains⟩, noInsertion⟩, noAssignment⟩ := reads
  simp [build, fine, remains, noInsertion, noAssignment, target]

end Draft

/-! ## Counted queries -/

/-- The lines of a limit and an offset. -/
def limitLines (limit : Nat) (offset : Option Nat) : String :=
  "LIMIT " ++ Text.ofNat limit ++ (offset.map fun count => "\nOFFSET " ++ Text.ofNat count).getD ""

theorem Dialect.limitClause_some (dialect : Dialect) (limit : Nat) (offset : Option Nat) :
    dialect.limitClause (some limit) offset = some (limitLines limit offset) := by
  -- the dialects differ only where an offset has no limit
  cases offset with
  | none => simp [limitClause, limitLines]
  | some count => simp [limitClause, limitLines, String.append_assoc]

namespace Draft

/-- The draft that a count assembles in place of its own.  Without a table there is nothing to limit. -/
def counted (d : Draft) : Draft :=
  { d with
    selection := some (.expression "COUNT(*)")
    limit := if d.targetsTable then some (d.limit.getD 1) else d.limit }

/-- The statement that counts in a source. -/
def countStatement (d : Draft) (source : Fragment) : Statement :=
  d.selectStatement (.raw "SELECT COUNT(*)") source (.raw (limitLines (d.limit.getD 1) d.offset))

theorem selectFragment_counted (d : Draft) : d.counted.selectFragment = .raw "SELECT COUNT(*)" := by
  have bare : d.dialect.quoteToken "COUNT(*)" = "COUNT(*)" := by cases d.dialect <;> decide
  have visible : Text.isBlank "COUNT(*)" = false := by decide
  simp only [selectFragment, counted, visible, bare]
  rfl

/-- Of a select from a table a count changes what is selected and the limit. -/
theorem build_counted {d : Draft} {st : Statement} (built : d.build = .ok st)
    (select : st.kind = .select) : ∃ source, d.sourceWithJoins = .ok source ∧
      st = d.selectStatement d.selectFragment source d.limitLine ∧
      d.counted.build = .ok (d.countStatement source) := by
  obtain ⟨source, given, rfl⟩ := exists_source_of_select built select
  obtain ⟨reads, target⟩ := reads_of_select built select
  refine ⟨source, given, rfl, ?_⟩
  have givenToo : d.counted.sourceWithJoins = .ok source := given
  have limits : d.counted.limitLine = .raw (limitLines (d.limit.getD 1) d.offset) := by
    simp only [limitLine, counted, if_pos target, Dialect.limitClause_some, Option.getD_some]
  have readsToo : d.counted.isChange = false := reads
  have targetToo : d.counted.targetsTable = true := target
  rw [build_of_reads readsToo targetToo, buildSelect_eq givenToo, selectFragment_counted, limits]
  rfl

theorem build_counted_of_not_select {d : Draft} {st : Statement} (built : d.build = .ok st)
    (other : st.kind ≠ .select) : d.counted.build = .ok st := by
  rw [← built]
  cases target : d.targetsTable with
  | true =>
    -- what is no select although there is a table changes rows, and that reads neither part
    have change : d.isChange = true := by
      by_contra reads
      rw [Bool.not_eq_true] at reads
      rw [build_of_reads reads target] at built
      exact other (kind_of_buildSelect built)
    exact d.build_reread change _ d.order _ d.offset
  | false =>
    -- without a table nothing reads what is selected, and there is no new limit
    have targetToo : d.counted.targetsTable = false := target
    simp only [build, target, targetToo, Bool.false_eq_true, if_false]
    simp only [counted, target]
    rfl

end Draft

namespace Query

theorem draft_singleRow (q : Query) : q.singleRow.draft =
    { q.draft with
      limit := if q.draft.targetsTable then some (q.draft.limit.getD 1) else q.draft.limit } := by
  unfold singleRow
  split
  · rename_i wanted
    obtain ⟨target, unlimited⟩ : q.draft.targetsTable = true ∧ q.draft.limit = none := by
      simpa [Draft.hasLimit] using wanted
    rw [draft_extend, if_pos target, unlimited]
    simp only [Step.applyAll, Step.apply]
    rfl
  · rename_i kept
    -- there is no table, or there is a limit already
    have same : (if q.draft.targetsTable then some (q.draft.limit.getD 1) else q.draft.limit) =
        q.draft.limit := by
      cases target : q.draft.targetsTable with
      | false => rfl
      | true =>
        obtain ⟨count, limit⟩ : ∃ count, q.draft.limit = some count := by
          exact Option.ne_none_iff_exists'.mp (by simpa [target, Draft.hasLimit] using kept)
        rw [if_pos rfl, limit, Option.getD_some]
    rw [same]

theorem draft_counting (q : Query) : q.counting.singleRow.draft = q.draft.counted := by
  have counting : q.counting.draft = q.draft.select (.expression "COUNT(*)") := by
    rw [Query.counting, draft_extend]
    simp only [Step.applyAll, Step.apply]
  rw [draft_singleRow, counting]
  rfl

end Query

/-! ## Answers -/

/-- The rows that a limit and an offset leave of others. -/
def window (limit : Nat) (offset : Option Nat) (rows : List (List Scalar)) : List (List Scalar) :=
  (rows.drop (offset.getD 0)).take limit

/-- One row is left unless the limit admits none or the offset skips it. -/
theorem window_singleton (limit : Nat) (offset : Option Nat) (row : List Scalar) :
    window limit offset [row] = if limit = 0 ∨ 0 < offset.getD 0 then [] else [row] := by
  unfold window
  cases offset.getD 0 <;> cases limit <;> simp

/-- The first value of the first row. -/
def ResultSet.firstValue (result : ResultSet) : Option Scalar := result.fetchValues.1.bind List.head?

namespace Session

variable {State : Type}

theorem count_of_build (s : Session State) {q : Query} {st : Statement}
    (built : q.counting.singleRow.build = .ok st) :
    s.count q = (s.run st).check fun result => countOf result.firstValue := by
  rw [count, value, numeric, query, built, runAssembled]
  rcases s.run st with ⟨answer, after⟩
  cases answer <;> rfl

/-- **What a count runs, and when it counts.**  A select is counted in its own source, under its own
conditions and with its own offset, and under its limit or else a limit of one.  Where a backend limits
the one row with the number like any other, the answer is the number, or zero where the limit admits no
row or the offset skips one.  Any other query is run itself, and the answer is the first value that
it gives. -/
theorem count_eq (s : Session State) {q : Query} {st : Statement} (built : q.build = .ok st) :
    (st.kind = .select → ∃ source, q.draft.sourceWithJoins = .ok source ∧
      st = q.draft.selectStatement q.draft.selectFragment source q.draft.limitLine ∧
      s.count q =
        (s.run (q.draft.countStatement source)).check (fun result => countOf result.firstValue) ∧
      ∀ result after n, s.run (q.draft.countStatement source) = (.ok result, after) →
        result.rows = window (q.draft.limit.getD 1) q.draft.offset [[.int n]] →
        s.count q =
          (.ok (if q.draft.limit = some 0 ∨ 0 < q.draft.offset.getD 0 then 0 else n), after)) ∧
    (st.kind ≠ .select →
      s.count q = (s.run st).check fun result => countOf result.firstValue) := by
  rw [Query.build_eq] at built
  constructor
  · intro select
    obtain ⟨source, given, read, counted⟩ := Draft.build_counted built select
    rw [← Query.draft_counting, ← Query.build_eq] at counted
    have answer := s.count_of_build counted
    refine ⟨source, given, read, answer, fun result after n ran limited => ?_⟩
    have admitsNone : q.draft.limit.getD 1 = 0 ↔ q.draft.limit = some 0 := by
      cases q.draft.limit <;> simp
    simp only [window_singleton, admitsNone] at limited
    rw [answer, ran]
    simp only [Answer.check, Except.bind, ResultSet.firstValue, ResultSet.fetchValues, limited]
    split <;> rfl
  · intro other
    have counted := Draft.build_counted_of_not_select built other
    rw [← Query.draft_counting, ← Query.build_eq] at counted
    exact s.count_of_build counted

/-- Joins, conditions and a limit above one do not come between the number and the answer. -/
theorem count_eq_joined :
    let q : Query := .mk .sqlite
      [.setTable "users",
        .join (.table "visits") .left (some (.condition "id" none (.scalar (.text "user")))),
        .filter (.id 7) {}, .select (.columns ["name"]), .limit 3]
    let source := "\"users\"\nLEFT JOIN \"visits\" ON \"id\" = \"user\""
    let counting : Statement :=
      ⟨.select, "SELECT COUNT(*)\nFROM " ++ source ++ "\nWHERE \"id\" = ?\nLIMIT 3", [.int 7]⟩
    let s : Session Script :=
      ⟨Script.backend "sqlite", { responses := [.ok (.ofRows ["COUNT(*)"] [[.int 12]])] }, .sqlite,
        .empty 8 16, none⟩
    (s.count q).1 = .ok 12 ∧ (s.count q).2.last = some counting ∧
      (s.count q).2.state.calls = [.execute counting.sql counting.params] := by
  intro q source counting s
  obtain ⟨st, built, select⟩ : ∃ st, q.build = .ok st ∧ st.kind = .select := ⟨_, rfl, rfl⟩
  obtain ⟨found, given, -, -, answers⟩ := (s.count_eq built).1 select
  obtain rfl : found = .raw source := Except.ok.inj (given.symm.trans (by decide +kernel))
  have same : q.draft.countStatement (.raw source) = counting := by decide +kernel
  rw [same] at answers
  rw [answers _ _ 12 rfl (by decide +kernel)]
  exact ⟨by decide +kernel, rfl, rfl⟩

/-- An offset skips the number, and nothing is counted of SQL text that the caller gives: the
answers are zero, whatever the table holds, and a value of the text. -/
theorem count_skips_number :
    let skipping : Query := .mk .sqlite [.setTable "t", .offset 5]
    let text : Query := .mk .sqlite [.filter (.literal "SELECT id FROM t") {}]
    let answering (rows : List (List Scalar)) : Session Script :=
      ⟨Script.backend "sqlite", { responses := [.ok (.ofRows ["COUNT(*)"] rows)] }, .sqlite,
        .empty 8 16, none⟩
    let counted := (answering (window 1 (some 5) [[.int 12]])).count skipping
    let passed := (answering [[.int 7], [.int 8]]).count text
    counted.1 = .ok 0 ∧
      counted.2.last = some ⟨.select, "SELECT COUNT(*)\nFROM \"t\"\nLIMIT 1\nOFFSET 5", []⟩ ∧
      passed.1 = .ok 7 ∧ passed.2.last = some ⟨.raw, "SELECT id FROM t", []⟩ := by
  intro skipping text answering counted passed
  decide +kernel

end Session

end SqlAssembly
