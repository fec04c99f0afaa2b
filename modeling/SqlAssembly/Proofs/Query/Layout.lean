import SqlAssembly.Proofs.Query.Calls

/-! # Where conditions stand in a statement

The kind of a statement tells which assembly it comes from, and with it what stands around
its conditions: nothing in SQL text of the caller, only text in front of them in an update
or a delete, and further lines behind them in a select.

* `Draft.assembly_of_build` — the five assemblies, told by the kind.
* `furtherLines`, `Draft.enclosed` — what a select has behind and around its conditions.
* `Draft.places_consolidated`, `Draft.places_havingLine` — the text around the conditions.
-/

namespace SqlAssembly

/-- Lines behind a text, each with its line break; an empty line adds nothing. -/
def furtherLines : List Fragment → String
  | [] => ""
  | line :: lines => (if line.sql.isEmpty then "" else "\n" ++ line.sql) ++ furtherLines lines

theorem Fragment.sql_foldl_lines {f : Fragment} (begun : f.sql.isEmpty = false) (lines : List Fragment) :
    (lines.foldl (fun f line => f.append line "\n") f).sql = f.sql ++ furtherLines lines := by
  induction lines generalizing f with
  | nil => rw [List.foldl_nil, furtherLines, String.append_empty]
  | cons line lines inductionHypothesis =>
    rw [List.foldl_cons, inductionHypothesis (isEmpty_append begun line _), furtherLines]
    by_cases empty : line.sql.isEmpty = true
    · rw [append, if_pos empty, if_pos empty, String.empty_append]
    · rw [append, if_neg empty, if_neg (by simp [begun]), if_neg empty]
      simp only [String.append_assoc]

namespace Draft

theorem kind_of_buildUpdate {d : Draft} {changes : Fragment} {s : Statement}
    (built : d.buildUpdate changes = .ok s) : s.kind = .update := by
  unfold buildUpdate at built
  split at built
  · obtain ⟨source, -, built⟩ := exists_of_bind_eq_ok built
    cases built
    rfl
  · cases built

theorem kind_of_buildDelete {d : Draft} {s : Statement} (built : d.buildDelete = .ok s) :
    s.kind = .delete := by
  unfold buildDelete at built
  split at built
  · obtain ⟨source, -, built⟩ := exists_of_bind_eq_ok built
    cases built
    rfl
  · cases built

/-- Which of the five assemblies a statement comes from is told by its kind. -/
theorem assembly_of_build {d : Draft} {s : Statement} (built : d.build = .ok s) :
    match s.kind with
    | .select => d.buildSelect = .ok s
    | .insert => ∃ mode rows, d.insertion = some (mode, rows) ∧ d.buildInsert mode rows = .ok s
    | .update => ∃ changes, d.assignment = some changes ∧ d.buildUpdate changes = .ok s
    | .delete => d.buildDelete = .ok s
    | .raw => d.buildRaw = .ok s := by
  unfold build at built
  split at built
  · cases built
  · split at built
    · rw [kind_of_buildDelete built]
      exact built
    · split at built
      · rename_i mode rows pending
        rw [kind_of_buildInsert built]
        exact ⟨mode, rows, pending, built⟩
      · rename_i changes _ pending
        rw [kind_of_buildUpdate built]
        exact ⟨changes, pending, built⟩
      · split at built
        · rw [kind_of_buildSelect built]
          exact built
        · rw [kind_of_buildRaw built]
          exact built

/-! ## Selects -/

/-- The text of a select, in parentheses and with its name if the draft has one. -/
def enclosed (d : Draft) (text : String) : String := (d.aliased (.raw text)).sql

theorem sql_aliased (d : Draft) (f : Fragment) : (d.aliased f).sql = d.enclosed f.sql := by
  unfold enclosed aliased
  split <;> rfl

theorem isEmpty_selectFragment (d : Draft) : d.selectFragment.sql.isEmpty = false := by
  unfold selectFragment
  split
  · split
    · rfl
    · exact Fragment.isEmpty_prefixed (.raw _) rfl
  · split
    · rfl
    · exact Fragment.isEmpty_prefixed (.raw _) rfl
  · exact Fragment.isEmpty_prefixed _ rfl
  · rfl

theorem isEmpty_withConditions {d : Draft} {statement : Fragment}
    (begun : statement.sql.isEmpty = false) : (d.withConditions statement).sql.isEmpty = false := by
  simp only [withConditions]
  split
  · exact begun
  · exact Fragment.isEmpty_append begun _ _

theorem sql_of_buildSelect {d : Draft} {s : Statement} (built : d.buildSelect = .ok s) :
    ∃ statement, statement.sql.isEmpty = false ∧
      s.sql = d.enclosed ((d.withConditions statement).sql ++
        furtherLines [d.groupLine, d.havingLine, d.orderLine, d.limitLine, d.lockLine]) := by
  unfold buildSelect at built
  obtain ⟨source, -, built⟩ := exists_of_bind_eq_ok built
  cases built
  have begun := Fragment.isEmpty_append d.isEmpty_selectFragment (source.prefixed "FROM ") "\n"
  refine ⟨_, begun, ?_⟩
  rw [Statement.sql, sql_aliased, Fragment.sql_foldl_lines (isEmpty_withConditions begun)]

/-! ## Conditions -/

/-- A statement of a draft has a text as its conditions. -/
def Places (d : Draft) (s : Statement) (text : String) : Prop :=
  match s.kind with
  | .select => ∃ front, s.sql = d.enclosed (front ++ "\nWHERE " ++ text ++
      furtherLines [d.groupLine, d.havingLine, d.orderLine, d.limitLine, d.lockLine])
  | .insert => False
  | .update => ∃ front, s.sql = front ++ "\nWHERE " ++ text
  | .delete => ∃ front, s.sql = front ++ "\nWHERE " ++ text
  | .raw => s.sql = text

/-- Every statement but an insert has all conditions of its draft. -/
theorem places_consolidated {d : Draft} {s : Statement} (built : d.build = .ok s)
    (visible : d.consolidated.isBlank = false) (notInsert : s.kind ≠ .insert) :
    d.Places s d.consolidated.sql := by
  have assembled := assembly_of_build built
  have last (changes : s.kind = .update ∨ s.kind = .delete) :
      ∃ front, s.sql = front ++ "\nWHERE " ++ d.consolidated.sql := by
    obtain ⟨-, statement, begun, fragment⟩ := guarded_of_build built changes
    exact ⟨statement.sql, by rw [Statement.sql, fragment, withConditions_sql visible begun]⟩
  unfold Places
  cases kind : s.kind with
  | insert => exact absurd kind notInsert
  | update => exact last (.inl kind)
  | delete => exact last (.inr kind)
  | raw =>
    simp only [kind, buildRaw] at assembled
    split at assembled
    · cases assembled
    · rw [if_neg (by simp [visible])] at assembled
      cases assembled
      rfl
  | select =>
    simp only [kind] at assembled
    obtain ⟨statement, begun, text⟩ := sql_of_buildSelect assembled
    exact ⟨statement.sql, by rw [text, withConditions_sql visible begun]⟩

/-- The conditions on groups of rows stand on a line of their own in a select. -/
theorem places_havingLine {d : Draft} {s : Statement} (built : d.build = .ok s)
    (select : s.kind = .select) (given : d.havingLine.sql.isEmpty = false) :
    ∃ front, s.sql = d.enclosed (front ++ ("\n" ++ d.havingLine.sql) ++
      furtherLines [d.orderLine, d.limitLine, d.lockLine]) := by
  have assembled := assembly_of_build built
  simp only [select] at assembled
  obtain ⟨statement, -, text⟩ := sql_of_buildSelect assembled
  refine ⟨(d.withConditions statement).sql ++ furtherLines [d.groupLine], ?_⟩
  rw [text]
  simp only [furtherLines, given, Bool.false_eq_true, if_false, String.append_empty,
    String.append_assoc]

end Draft

end SqlAssembly
