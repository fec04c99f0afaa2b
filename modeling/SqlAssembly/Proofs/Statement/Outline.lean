import SqlAssembly.Proofs.Query.Layout

/-! # Statements in outline

A few keywords of a statement need an operand: WHERE, HAVING, SET, the words of an upsert, and the ON of
a join.  In the text of a statement they cannot be told from the text of the caller.  The outline of a
statement is made like the statement, but it keeps each keyword that the assembly writes apart, with
its operand.

* `Outline` — the text of a statement with its keywords marked.
* `Draft.outline` — the outline of each kind of statement.
* `Draft.text_outline` — the text of an outline is that of the statement.
* `Draft.operands_outline` — which keywords are written, with which operands.
-/

namespace SqlAssembly

/-- A keyword that needs an operand. -/
inductive Keyword where
  | on
  | filter
  | having
  | set
  /-- The words in front of the changes of an upsert. -/
  | upsert (words : String)
  deriving DecidableEq, Repr

def Keyword.lead : Keyword → String
  | .on => "ON "
  | .filter => "WHERE "
  | .having => "HAVING "
  | .set => "SET "
  | .upsert words => words ++ " "

/-- A stretch of a statement: a keyword with its operand, or any other text. -/
inductive Stretch where
  | plain (text : String)
  | clause (keyword : Keyword) (operand : String)
  deriving DecidableEq, Repr

namespace Stretch

def text : Stretch → String
  | plain text => text
  | clause keyword operand => keyword.lead ++ operand

def operand? : Stretch → Option (Keyword × String)
  | plain _ => none
  | clause keyword operand => some (keyword, operand)

end Stretch

structure Outline where
  stretches : List Stretch
  deriving DecidableEq, Repr

namespace Outline

def text (o : Outline) : String := String.join (o.stretches.map Stretch.text)

/-- The keywords with their operands, in order. -/
def operands (o : Outline) : List (Keyword × String) := o.stretches.filterMap Stretch.operand?

def empty : Outline := ⟨[]⟩

def plain (text : String) : Outline := ⟨[.plain text]⟩

def clause (keyword : Keyword) (f : Fragment) : Outline := ⟨[.clause keyword f.sql]⟩

instance : Append Outline where
  append o p := ⟨o.stretches ++ p.stretches⟩

/-- Outlines with a separator between them, if neither is without text. -/
def separated (o p : Outline) (separator : String) : Outline :=
  if p.text.isEmpty then o else if o.text.isEmpty then p else o ++ plain separator ++ p

@[simp] theorem text_empty : empty.text = "" := rfl

@[simp] theorem text_plain (t : String) : (plain t).text = t := by simp [text, plain, Stretch.text]

@[simp] theorem text_clause (keyword : Keyword) (f : Fragment) :
    (clause keyword f).text = (f.prefixed keyword.lead).sql := by
  simp [text, clause, Stretch.text, Fragment.prefixed]

@[simp] theorem text_append (o p : Outline) : (o ++ p).text = o.text ++ p.text := by
  have stretches : (o ++ p).stretches = o.stretches ++ p.stretches := rfl
  simp [text, stretches, String.join_append]

@[simp] theorem operands_empty : empty.operands = [] := rfl

@[simp] theorem operands_plain (t : String) : (plain t).operands = [] := rfl

@[simp] theorem operands_clause (keyword : Keyword) (f : Fragment) :
    (clause keyword f).operands = [(keyword, f.sql)] := rfl

@[simp] theorem operands_append (o p : Outline) : (o ++ p).operands = o.operands ++ p.operands :=
  List.filterMap_append

theorem text_separated {o p : Outline} {f g : Fragment} (left : o.text = f.sql) (right : p.text = g.sql)
    (separator : String) : (o.separated p separator).text = (f.append g separator).sql := by
  unfold separated Fragment.append
  rw [left, right]
  split
  · exact left
  · split
    · exact right
    · simp [left, right]

theorem text_foldl_separated {α : Type} {outline : α → Outline} {fragment : α → Fragment} {xs : List α}
    (same : ∀ x ∈ xs, (outline x).text = (fragment x).sql) {o : Outline} {f : Fragment}
    (start : o.text = f.sql) :
    (xs.foldl (fun o x => o.separated (outline x) "\n") o).text =
      (xs.foldl (fun f x => f.append (fragment x) "\n") f).sql := by
  induction xs generalizing o f with
  | nil => exact start
  | cons x xs inductionHypothesis =>
    obtain ⟨first, others⟩ := List.forall_mem_cons.mp same
    exact inductionHypothesis others (text_separated start first "\n")

/-- An outline without text has no keyword. -/
theorem operands_of_isEmpty {o : Outline} (nothing : o.text.isEmpty = true) : o.operands = [] := by
  obtain ⟨stretches⟩ := o
  unfold operands
  rw [List.filterMap_eq_nil_iff]
  intro stretch member
  cases stretch with
  | plain t => rfl
  | clause keyword operand =>
    obtain ⟨before, after, rfl⟩ := List.append_of_mem member
    cases keyword <;>
      simp [text, String.isEmpty_iff, String.join_append, Stretch.text, Keyword.lead] at nothing

@[simp] theorem operands_separated (o p : Outline) (separator : String) :
    (o.separated p separator).operands = o.operands ++ p.operands := by
  unfold separated
  split
  · rename_i nothing
    rw [operands_of_isEmpty nothing, List.append_nil]
  · split
    · rename_i nothing
      rw [operands_of_isEmpty nothing, List.nil_append]
    · simp

end Outline

/-! ## Parts of a statement -/

open Outline

def Join.outline (j : Join) : Outline :=
  match j.on with
  | some condition => (plain j.announced.sql).separated (.clause .on condition) " "
  | none => plain j.announced.sql

theorem Join.text_outline (j : Join) : j.outline.text = j.fragment.sql := by
  unfold outline fragment
  cases j.on with
  | none => exact text_plain _
  | some condition => exact text_separated (text_plain _) (text_clause .on condition) " "

theorem Join.operands_outline (j : Join) :
    j.outline.operands = (j.on.map fun condition => (Keyword.on, condition.sql)).toList := by
  unfold outline
  cases j.on <;> simp

namespace Draft

def sourceText (d : Draft) : String := (d.sourceFragment.toOption.getD .empty).sql

def joinedOutline (d : Draft) : Outline :=
  d.joins.foldl (fun o j => o.separated j.outline "\n") (plain d.sourceText)

/-- An outline with the conditions on a line of their own, if there are any. -/
def filteredOutline (d : Draft) (o : Outline) : Outline :=
  if d.consolidated.isBlank then o else o.separated (.clause .filter d.consolidated) "\n"

def havingOutline (d : Draft) : Outline :=
  if d.having.isEmpty then .empty else .clause .having (Fragment.join .and d.having)

def namedOutline (d : Draft) (o : Outline) : Outline :=
  match d.tableName with
  | none => o
  | some name => plain "( " ++ o ++ plain (" ) " ++ d.dialect.quoteIdentifier name)

def outline (d : Draft) : StatementKind → Outline
  | .select =>
    let selected := d.filteredOutline
      ((plain d.selectFragment.sql).separated (plain "FROM " ++ d.joinedOutline) "\n")
    let lines := [plain d.groupLine.sql, d.havingOutline, plain d.orderLine.sql, plain d.limitLine.sql,
      plain d.lockLine.sql]
    d.namedOutline (lines.foldl (fun o line => o.separated line "\n") selected)
  | .insert =>
    match d.insertion, d.assignment with
    | none, _ => .empty
    | some (mode, rows), assignment =>
      let inserted := (plain (d.insertKeyword mode ++ " " ++ d.sourceText)).separated (plain rows.sql) " "
      match mode, assignment with
      | .upsert, some changes =>
        inserted.separated (.clause (.upsert d.dialect.upsertKeyword) changes) "\n"
      | _, _ => inserted
  | .update =>
    match d.assignment with
    | none => .empty
    | some changes =>
      d.filteredOutline ((plain "UPDATE " ++ d.joinedOutline).separated (.clause .set changes) "\n")
  | .delete => d.filteredOutline (plain "DELETE FROM " ++ d.joinedOutline)
  | .raw => plain d.consolidated.sql

variable {d : Draft} {s : Statement} {source : Fragment}

theorem sourceText_of_ok (given : d.sourceFragment = .ok source) : d.sourceText = source.sql := by
  rw [sourceText, given]
  rfl

theorem text_joinedOutline (given : d.sourceWithJoins = .ok source) : d.joinedOutline.text = source.sql := by
  obtain ⟨start, begun, joined⟩ := exists_of_bind_eq_ok given
  cases joined
  refine text_foldl_separated (fun j _ => j.text_outline) ?_
  rw [text_plain, sourceText_of_ok begun]

theorem text_filteredOutline {o : Outline} {f : Fragment} (same : o.text = f.sql) :
    (d.filteredOutline o).text = (d.withConditions f).sql := by
  unfold filteredOutline withConditions
  by_cases blank : d.consolidated.isBlank = true
  · simpa [blank] using same
  · simp only [blank, Bool.false_eq_true, if_false]
    exact text_separated same (text_clause _ _) "\n"

theorem text_havingOutline (d : Draft) : d.havingOutline.text = d.havingLine.sql := by
  unfold havingOutline havingLine
  split
  · rfl
  · exact text_clause _ _

theorem text_namedOutline {o : Outline} {f : Fragment} (same : o.text = f.sql) :
    (d.namedOutline o).text = (d.aliased f).sql := by
  unfold namedOutline aliased
  cases d.tableName with
  | none => exact same
  | some name => simp [same, String.append_assoc]

/-! ## The outline of a statement -/

theorem text_prefixed {o : Outline} {f : Fragment} (same : o.text = f.sql) (lead : String) :
    (plain lead ++ o).text = (f.prefixed lead).sql := by
  rw [text_append, text_plain, same]
  rfl

theorem text_outline_select (built : d.buildSelect = .ok s) : (d.outline .select).text = s.sql := by
  obtain ⟨source, given, built⟩ := exists_of_bind_eq_ok built
  cases built
  have front := text_separated (text_plain d.selectFragment.sql)
    (text_prefixed (text_joinedOutline given) "FROM ") "\n"
  let lines := [(plain d.groupLine.sql, d.groupLine), (d.havingOutline, d.havingLine),
    (plain d.orderLine.sql, d.orderLine), (plain d.limitLine.sql, d.limitLine),
    (plain d.lockLine.sql, d.lockLine)]
  have same : ∀ line ∈ lines, line.1.text = line.2.sql := by simp [lines, text_havingOutline]
  exact text_namedOutline (text_foldl_separated same (text_filteredOutline front))

theorem text_outline_insert {mode : InsertMode} {rows : Fragment} (pending : d.insertion = some (mode, rows))
    (built : d.buildInsert mode rows = .ok s) : (d.outline .insert).text = s.sql := by
  obtain ⟨source, given, built⟩ := exists_of_bind_eq_ok built
  have inserted : ((plain (d.insertKeyword mode ++ " " ++ d.sourceText)).separated (plain rows.sql) " ").text =
      ((source.prefixed (d.insertKeyword mode ++ " ")).append rows " ").sql := by
    refine text_separated ?_ (text_plain _) " "
    rw [text_plain, sourceText_of_ok given]
    rfl
  simp only [outline, pending]
  by_cases upserts : mode = .upsert
  · subst upserts
    cases assigned : d.assignment with
    | none => simp [assigned] at built
    | some changes =>
      simp only [assigned, if_true] at built
      cases built
      exact text_separated inserted (text_clause _ _) "\n"
  · rw [if_neg upserts] at built
    cases built
    cases mode with
    | upsert => exact absurd rfl upserts
    | insert | replace | ignore => exact inserted

theorem text_outline_update {changes : Fragment} (pending : d.assignment = some changes)
    (built : d.buildUpdate changes = .ok s) : (d.outline .update).text = s.sql := by
  unfold buildUpdate at built
  split at built
  · obtain ⟨source, given, built⟩ := exists_of_bind_eq_ok built
    cases built
    simp only [outline, pending]
    exact text_filteredOutline
      (text_separated (text_prefixed (text_joinedOutline given) "UPDATE ") (text_clause _ _) "\n")
  · cases built

theorem text_outline_delete (built : d.buildDelete = .ok s) : (d.outline .delete).text = s.sql := by
  unfold buildDelete at built
  split at built
  · obtain ⟨source, given, built⟩ := exists_of_bind_eq_ok built
    cases built
    exact text_filteredOutline (text_prefixed (text_joinedOutline given) "DELETE FROM ")
  · cases built

theorem text_outline_raw (built : d.buildRaw = .ok s) : (d.outline .raw).text = s.sql := by
  unfold buildRaw at built
  split at built
  · cases built
  · split at built
    · cases built
    · cases built
      exact text_plain _

theorem text_outline (built : d.build = .ok s) : (d.outline s.kind).text = s.sql := by
  have assembled := assembly_of_build built
  cases kind : s.kind with
  | select =>
    simp only [kind] at assembled
    exact text_outline_select assembled
  | insert =>
    simp only [kind] at assembled
    obtain ⟨mode, rows, pending, assembled⟩ := assembled
    exact text_outline_insert pending assembled
  | update =>
    simp only [kind] at assembled
    obtain ⟨changes, pending, assembled⟩ := assembled
    exact text_outline_update pending assembled
  | delete =>
    simp only [kind] at assembled
    exact text_outline_delete assembled
  | raw =>
    simp only [kind] at assembled
    exact text_outline_raw assembled

/-! ## Keywords and their operands -/

def onOperands (d : Draft) : List (Keyword × String) :=
  (d.joins.filterMap Join.on).map fun condition => (.on, condition.sql)

def filterOperands (d : Draft) : List (Keyword × String) :=
  if d.consolidated.isBlank then [] else [(.filter, d.consolidated.sql)]

def havingOperands (d : Draft) : List (Keyword × String) :=
  if d.having.isEmpty then [] else [(.having, (Fragment.join .and d.having).sql)]

def upsertOperands (d : Draft) : List (Keyword × String) :=
  match d.insertion, d.assignment with
  | some (.upsert, _), some changes => [(.upsert d.dialect.upsertKeyword, changes.sql)]
  | _, _ => []

@[simp] theorem operands_joinedOutline (d : Draft) : d.joinedOutline.operands = d.onOperands := by
  have folded (joins : List Join) (o : Outline) :
      (joins.foldl (fun o j => o.separated j.outline "\n") o).operands =
        o.operands ++ (joins.filterMap Join.on).map fun condition => (.on, condition.sql) := by
    induction joins generalizing o with
    | nil => simp
    | cons j joins inductionHypothesis =>
      rw [List.foldl_cons, inductionHypothesis, operands_separated, j.operands_outline]
      cases on : j.on <;> simp [on]
  exact folded d.joins _

@[simp] theorem operands_filteredOutline (d : Draft) (o : Outline) :
    (d.filteredOutline o).operands = o.operands ++ d.filterOperands := by
  unfold filteredOutline filterOperands
  split <;> simp

@[simp] theorem operands_havingOutline (d : Draft) : d.havingOutline.operands = d.havingOperands := by
  unfold havingOutline havingOperands
  split <;> simp

@[simp] theorem operands_namedOutline (d : Draft) (o : Outline) :
    (d.namedOutline o).operands = o.operands := by
  unfold namedOutline
  split <;> simp

theorem operands_outline (d : Draft) (kind : StatementKind) :
    (d.outline kind).operands =
      match kind with
      | .select => d.onOperands ++ d.filterOperands ++ d.havingOperands
      | .insert => d.upsertOperands
      | .update => (d.assignment.map fun changes =>
          d.onOperands ++ (.set, changes.sql) :: d.filterOperands).getD []
      | .delete => d.onOperands ++ d.filterOperands
      | .raw => [] := by
  cases kind with
  | select => simp [outline]
  | insert =>
    unfold outline upsertOperands
    cases d.insertion with
    | none => rfl
    | some pending =>
      obtain ⟨mode, rows⟩ := pending
      cases d.assignment <;> cases mode <;> simp
  | update =>
    unfold outline
    cases d.assignment <;> simp
  | delete => simp [outline]
  | raw => rfl

end Draft

end SqlAssembly
