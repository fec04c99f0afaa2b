import SqlAssembly.ResultSet

/-! # Reading a result set call by call

A result set is read by calls of five kinds, in any order.  Each takes rows from the front of those that are
left and tells of these rows alone.

* `Fetch`, `Fetched` — a call and what it gives.
* `Fetch.takes`, `Fetch.reading` — how many rows a call takes, and what it tells of them.
* `ResultSet.fetch_eq` — what one call does.
* `ResultSet.fetchEach_conserves` — what calls in a row do: no row is lost, and none is read twice.
-/

namespace SqlAssembly

inductive Fetch where
  | row
  | values
  | all
  | allValues
  | column (index : Nat)

inductive Fetched where
  | row (row : Option Row)
  | values (values : Option (List Scalar))
  | all (rows : List Row)
  | allValues (rows : List (List Scalar))
  | column (values : List Scalar)

namespace Fetch

/-- How many rows a call takes of those that are left. -/
def takes : Fetch → (remaining : Nat) → Nat
  | .row, remaining | .values, remaining => min remaining 1
  | .all, remaining | .allValues, remaining | .column _, remaining => remaining

/-- What a call tells of the rows that it takes, under the names of the columns. -/
def reading (columns : List String) : Fetch → (taken : List (List Scalar)) → Fetched
  | .row, taken => .row (taken.head?.map fun values => { columns, values })
  | .values, taken => .values taken.head?
  | .all, taken => .all (taken.map fun values => { columns, values })
  | .allValues, taken => .allValues taken
  | .column index, taken => .column (taken.map fun values => values.getD index .null)

theorem takes_le (call : Fetch) (remaining : Nat) : call.takes remaining ≤ remaining := by
  cases call <;> simp only [takes] <;> omega

end Fetch

namespace ResultSet

def fetch (result : ResultSet) : Fetch → Fetched × ResultSet
  | .row => result.fetchRow.map .row id
  | .values => result.fetchValues.map .values id
  | .all => result.fetchAll.map .all id
  | .allValues => result.fetchAllValues.map .allValues id
  | .column index => (result.fetchColumn index).map .column id

/-- Reads a result set by calls one after another, each on what the one before has left. -/
def fetchEach (result : ResultSet) : List Fetch → List Fetched × ResultSet
  | [] => ([], result)
  | call :: calls =>
    let (fetched, rest) := result.fetch call
    let (later, rest) := rest.fetchEach calls
    (fetched :: later, rest)

/-- The result set behind the rows that were taken from its front. -/
def skip (result : ResultSet) (count : Nat) : ResultSet := { result with rows := result.rows.drop count }

theorem fetch_eq (result : ResultSet) (call : Fetch) :
    result.fetch call =
      (call.reading result.columns (result.rows.take (call.takes result.remaining)),
        result.skip (call.takes result.remaining)) := by
  have everything : result.rows.take result.remaining = result.rows ∧ result.rows.drop result.remaining = [] :=
    ⟨List.take_length, List.drop_length⟩
  have first : (result.rows.take (min result.remaining 1)).head? = result.rows.head? ∧
      result.rows.drop (min result.remaining 1) = result.rows.tail := by
    rw [remaining]
    cases result.rows <;> simp
  cases call with
  | row => simp [fetch, fetchRow, fetchValues, Fetch.takes, Fetch.reading, skip, first]
  | values => simp [fetch, fetchValues, Fetch.takes, Fetch.reading, skip, first]
  | all => simp [fetch, fetchAll, fetchAllValues, Fetch.takes, Fetch.reading, skip, everything]
  | allValues => simp [fetch, fetchAllValues, Fetch.takes, Fetch.reading, skip, everything]
  | column index =>
    simp [fetch, fetchColumn, fetchAllValues, Fetch.takes, Fetch.reading, skip, everything]

/-- **No row is lost or read twice.**  The rows of a result set can be cut into one block for each call and
the rows behind them.  After any number of the calls, each of these has told of its own block alone, the
blocks so far and the rows that are left are the rows of the result set in their order, and nothing else of
the result set has changed.  A call for one row has a block of one row unless none is left, and any other
call has all the rows that are left. -/
theorem fetchEach_conserves (result : ResultSet) (calls : List Fetch) :
    ∃ blocks : List (List (List Scalar)), blocks.length = calls.length ∧ ∀ count, ∃ answers after,
      result.fetchEach (calls.take count) = (answers, after) ∧
      answers = List.zipWith (Fetch.reading result.columns) (calls.take count) (blocks.take count) ∧
      (blocks.take count).flatten ++ after.rows = result.rows ∧
      after = { result with rows := after.rows } ∧
      after.remaining = result.remaining - (blocks.take count).flatten.length ∧
      ∀ call block, calls[count]? = some call → blocks[count]? = some block →
        block.length = call.takes after.remaining := by
  induction calls generalizing result with
  | nil => exact ⟨[], rfl, fun count => ⟨[], result, by simp [fetchEach]⟩⟩
  | cons call calls inductionHypothesis =>
    -- the first block is what this call takes, and the others are those of the result set behind it
    let taken := result.rows.take (call.takes result.remaining)
    have sized : taken.length = call.takes result.remaining :=
      List.length_take_of_le (call.takes_le result.remaining)
    obtain ⟨blocks, matching, runs⟩ := inductionHypothesis (result.skip (call.takes result.remaining))
    refine ⟨taken :: blocks, by simp [matching], fun count => ?_⟩
    cases count with
    | zero => exact ⟨[], result, by simp [fetchEach, sized]⟩
    | succ count =>
      obtain ⟨answers, after, run, told, kept, same, left, next⟩ := runs count
      refine ⟨call.reading result.columns taken :: answers, after, ?_, ?_, ?_, same, ?_, next⟩
      · simp only [List.take_succ_cons, fetchEach, fetch_eq, run, taken]
      · rw [told, List.take_succ_cons, List.take_succ_cons, List.zipWith_cons_cons, skip]
      · rw [List.take_succ_cons, List.flatten_cons, List.append_assoc, kept]
        exact List.take_append_drop ..
      · rw [left, List.take_succ_cons, List.flatten_cons, List.length_append, sized, ← Nat.sub_sub]
        simp only [remaining, skip, List.length_drop]

example : ((ofRows ["id", "name"] [[.int 1, .text "ada"], [.int 2], [.int 3, .null]]).fetchEach
    [.row, .column 1, .values]).1 =
      [.row (some ⟨["id", "name"], [.int 1, .text "ada"]⟩), .column [.null, .null], .values none] := rfl

end ResultSet

end SqlAssembly
