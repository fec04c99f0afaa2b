import Mathlib.Data.List.DropRight
import SqlAssembly.Proofs.Query.Operands
import SqlAssembly.Proofs.Session.Counting

/-! # What a select reads from

Three steps have to do with the source of a statement: two set it and one adds a table.  So what a
query asks for is the source that was set last, and the tables that were added behind it.  A draft
holds a list of tables or a subquery, never both, and so a table that is added takes the place of a
subquery.  Everything else that was asked for stands behind FROM, in order.

* `Query.targets` — the sources that a query asks for.
* `Query.isDisplaced` — a subquery has given way to a table.
* `Draft.Stems` — how the source of a draft stems from the steps; `Stems.apply`, `stems_applyAll`.
* `Query.build_select_targets` — what stands behind FROM.
-/

namespace SqlAssembly

/-! ## What is asked for -/

namespace Step

/-- The source that a step sets. -/
def base? : Step → Option JoinTarget
  | .setTable token => some (.table token)
  | .setSubquery query => some (.subquery query)
  | _ => none

/-- The table that a step adds. -/
def addition? : Step → Option String
  | .addTable token => some token
  | _ => none

/-- The source that is set last. -/
def lastBase? (steps : List Step) : Option JoinTarget := (steps.filterMap base?).getLast?

/-- The tables that are added after it. -/
def additions (steps : List Step) : List String :=
  (steps.rtakeWhile fun step => step.base?.isNone).filterMap addition?

theorem lastBase?_concat (steps : List Step) (step : Step) :
    lastBase? (steps ++ [step]) = step.base?.or (lastBase? steps) := by
  rw [lastBase?, List.filterMap_append, List.getLast?_append]
  cases base : step.base? <;> simp [base, lastBase?]

theorem additions_concat (steps : List Step) (step : Step) :
    additions (steps ++ [step]) =
      if step.base?.isNone then additions steps ++ step.addition?.toList else [] := by
  rw [additions, List.rtakeWhile_concat]
  split
  · rw [List.filterMap_append, additions]
    cases added : step.addition? <;> simp [added]
  · rfl

end Step

namespace Query

def targets (query : Query) : List JoinTarget :=
  (Step.lastBase? query.steps).toList ++ (Step.additions query.steps).map .table

/-- The source was set to a subquery, and tables were added to it. -/
def isDisplaced (query : Query) : Bool :=
  match Step.lastBase? query.steps, Step.additions query.steps with
  | some (.subquery _), _ :: _ => true
  | _, _ => false

end Query

/-! ## What a draft holds -/

namespace Draft

variable {d : Draft} {step : Step} {base : Option JoinTarget} {tokens : List String}
  {source : Option Source}

/-- The source of a draft, by what was set last and the tables that were added after it. -/
inductive Stems : Option JoinTarget → List String → Option Source → Prop where
  | unset : Stems none [] none
  | added (token : String) (tokens : List String) :
      Stems none (token :: tokens) (some (.tables (token :: tokens)))
  | tables (token : String) (tokens : List String) :
      Stems (some (.table token)) tokens (some (.tables (token :: tokens)))
  | subquery {query : Query} {s : Statement} (built : query.build = .ok s) :
      Stems (some (.subquery query)) [] (some (.subquery s.fragment))
  | displaced {query : Query} {s : Statement} (built : query.build = .ok s) (token : String)
      (tokens : List String) :
      Stems (some (.subquery query)) (token :: tokens) (some (.tables (token :: tokens)))

theorem Stems.addTable (stems : Stems base tokens d.source) (token : String) :
    Stems base (tokens ++ [token]) (d.addTable token).source := by
  rw [Draft.addTable]
  generalize held : d.source = source at stems
  cases stems with
  | unset => exact .added token []
  | added first others => exact .added first (others ++ [token])
  | tables first => exact .tables first (tokens ++ [token])
  | subquery built => exact .displaced built token []
  | displaced built first others => exact .displaced built first (others ++ [token])

theorem Stems.apply (stems : Stems base tokens d.source) (fine : (step.apply d).error = none) :
    Stems (step.base?.or base) (if step.base?.isNone then tokens ++ step.addition?.toList else [])
      (step.apply d).source := by
  cases step with
  | setTable token =>
    rw [Step.apply]
    exact .tables token []
  | setSubquery query =>
    simp only [Step.apply, setSubquery] at fine ⊢
    obtain ⟨-, f, taken, changed⟩ := accept_eq_of_error_eq_none fine
    obtain ⟨s, built, taken⟩ := exists_of_bind_eq_ok taken
    cases taken
    rw [changed]
    exact .subquery built
  | addTable token =>
    rw [Step.apply]
    exact stems.addTable token
  | _ =>
    have kept := congrArg source (Step.part_of_not_concerns fine .source rfl)
    rw [show (Step.apply _ d).source = d.source from kept]
    simpa [Step.base?, Step.addition?] using stems

/-- Each step is made on the draft of the steps before it, and none of those was refused either. -/
theorem stems_applyAll {dialect : Dialect} {steps : List Step}
    (fine : (Step.applyAll steps (start dialect)).error = none) :
    Stems (Step.lastBase? steps) (Step.additions steps) (Step.applyAll steps (start dialect)).source := by
  induction steps using List.reverseRecOn with
  | nil =>
    simp only [Step.applyAll]
    exact .unset
  | append_singleton steps step inductionHypothesis =>
    rw [Step.applyAll_append] at fine ⊢
    simp only [Step.applyAll] at fine ⊢
    obtain ⟨before, -⟩ := Option.or_eq_none_iff.mp ((step.records _).error.symm.trans fine)
    rw [Step.lastBase?_concat, Step.additions_concat]
    exact (inductionHypothesis before).apply fine

end Draft

theorem Query.stems_draft {query : Query} (fine : query.draft.error = none) :
    Draft.Stems (Step.lastBase? query.steps) (Step.additions query.steps) query.draft.source := by
  obtain ⟨dialect, steps⟩ := query
  simp only [draft] at fine ⊢
  exact Draft.stems_applyAll fine

/-! ## What stands behind FROM -/

namespace Draft

/-- A source with the joins of the draft behind it. -/
def joined (d : Draft) (source : Fragment) : Fragment :=
  d.joins.foldl (fun f j => f.append j.fragment "\n") source

theorem exists_of_sourceWithJoins {d : Draft} {f : Fragment} (given : d.sourceWithJoins = .ok f) :
    ∃ source, d.sourceFragment = .ok source ∧ f = d.joined source := by
  rw [sourceWithJoins] at given
  obtain ⟨source, found, given⟩ := exists_of_bind_eq_ok given
  cases given
  exact ⟨source, found, rfl⟩

end Draft

namespace JoinTarget

theorem mapM_conform_tables (dialect : Dialect) (tokens : List String) :
    (tokens.map table).mapM (conform dialect) = .ok ((tokens.map dialect.quoteToken).map .raw) := by
  have conforms : ∀ token ∈ tokens,
      conform dialect (table token) = .ok (.raw (dialect.quoteToken token)) := by
    intro token _
    rw [conform]
  rw [List.mapM_map, List.map_map]
  exact mapM_of_forall_mem conforms

theorem mapM_conform_subquery (dialect : Dialect) {query : Query} {s : Statement}
    (built : query.build = .ok s) (tokens : List String) :
    (subquery query :: tokens.map table).mapM (conform dialect) =
      .ok (s.fragment :: (tokens.map dialect.quoteToken).map .raw) := by
  rw [List.mapM_cons, mapM_conform_tables, conform, built]
  rfl

end JoinTarget

/-- Another fragment in front makes a list longer. -/
theorem Fragment.listed_cons_ne (f g : Fragment) (rest : List Fragment) :
    listed ", " (f :: g :: rest) ≠ listed ", " (g :: rest) := by
  rw [listed_cons_cons]
  intro same
  have lengths := congrArg (fun fragment => fragment.sql.length) same
  simp [String.length_append] at lengths

namespace Query

variable {query : Query}

/-- All sources that a query asks for conform, and behind FROM stands their list, without the subquery
if it is displaced. -/
theorem sourceFragment_draft {source : Fragment} (fine : query.draft.error = none)
    (given : query.draft.sourceFragment = .ok source) :
    ∃ parts, query.targets.mapM (JoinTarget.conform query.dialect) = .ok parts ∧
      source = .listed ", " (if query.isDisplaced then parts.tail else parts) ∧
      (source = .listed ", " parts ↔ query.isDisplaced = false) := by
  have stems := stems_draft fine
  rw [Draft.sourceFragment, dialect_draft] at given
  rw [targets, isDisplaced]
  generalize Step.lastBase? query.steps = base at stems ⊢
  generalize Step.additions query.steps = tokens at stems ⊢
  generalize query.draft.source = held at stems given
  have listed (tokens : List String) (given : Except.ok (Fragment.raw (", ".intercalate
      (tokens.map query.dialect.quoteToken))) = (.ok source : Except AssemblyError Fragment)) :
      source = .listed ", " ((tokens.map query.dialect.quoteToken).map .raw) := by
    rw [← Except.ok.inj given, Fragment.raw_intercalate]
  cases stems with
  | unset => cases given
  | added token tokens =>
    have all := listed _ given
    exact ⟨_, JoinTarget.mapM_conform_tables _ (token :: tokens), all, iff_of_true all rfl⟩
  | tables token =>
    have all := listed _ given
    exact ⟨_, JoinTarget.mapM_conform_tables _ (token :: tokens), all, iff_of_true all rfl⟩
  | subquery built =>
    have all := (Except.ok.inj given).symm.trans (Fragment.listed_singleton ", " _).symm
    exact ⟨_, JoinTarget.mapM_conform_subquery _ built [], all, iff_of_true all rfl⟩
  | displaced built token tokens =>
    have rest := listed _ given
    refine ⟨_, JoinTarget.mapM_conform_subquery _ built (token :: tokens), rest, iff_of_false ?_ nofun⟩
    intro all
    exact Fragment.listed_cons_ne _ _ _ (all.symm.trans rest)

/-- **What a select reads from.**  Behind FROM stands what was set last and the tables added after it, a
subquery as its statement and a table by its token, in the order of the steps and between commas, with
the parameters of the subquery.  That holds unless the subquery is displaced; then the tables stand
alone, and its parameters are gone with it. -/
theorem build_select_targets {s : Statement} (built : query.build = .ok s) (select : s.kind = .select) :
    ∃ parts, query.targets.mapM (JoinTarget.conform query.dialect) = .ok parts ∧
      ∃ source, s = query.draft.selectStatement query.draft.selectFragment (query.draft.joined source)
          query.draft.limitLine ∧
        source = .listed ", " (if query.isDisplaced then parts.tail else parts) ∧
        (source = .listed ", " parts ↔ query.isDisplaced = false) := by
  rw [build_eq] at built
  obtain ⟨whole, given, statement⟩ := Draft.exists_source_of_select built select
  obtain ⟨source, found, rfl⟩ := Draft.exists_of_sourceWithJoins given
  obtain ⟨parts, conform, sources⟩ := sourceFragment_draft (Draft.error_eq_none_of_build built) found
  exact ⟨parts, conform, source, statement, sources⟩

/-- A dotted table under an alias behind another one, where a subquery was set and set aside before, and
a join that belongs to neither. -/
theorem build_select_targets_joined :
    let inner : Query := .mk .sqlite [.setTable "logs", .filterEq "level" (.scalar (.int 3)), .named "e"]
    let query : Query := .mk .sqlite [.setSubquery inner, .setTable "users u", .limit 2, .addTable "main.roles r",
      .join (.table "teams") .inner none, .addTable "sites"]
    let s : Statement := ⟨.select, "SELECT *\nFROM \"users\" u, main.roles r, \"sites\"\n" ++
      "INNER JOIN \"teams\"\nLIMIT 2", []⟩
    query.build = .ok s ∧
      ∃ parts, query.targets.mapM (JoinTarget.conform query.dialect) = .ok parts ∧
        ∃ source, s = query.draft.selectStatement query.draft.selectFragment (query.draft.joined source)
            query.draft.limitLine ∧
          source = .listed ", " (if query.isDisplaced then parts.tail else parts) ∧
          (source = .listed ", " parts ↔ query.isDisplaced = false) := by
  intro inner query s
  have built : query.build = .ok s := by decide +kernel
  exact ⟨built, build_select_targets built rfl⟩

/-- A table that is added to a subquery leaves nothing of it, and the statement is built all the same. -/
theorem build_select_loses_subquery :
    let inner : Query := .mk .generic [.setTable "logs", .filterEq "level" (.scalar (.text "error")), .named "e"]
    let query : Query := .mk .generic [.setSubquery inner, .addTable "x"]
    query.targets.mapM (JoinTarget.conform .generic) =
        .ok [⟨"( SELECT *\nFROM \"logs\"\nWHERE \"level\" = ? ) \"e\"", [.text "error"]⟩, .raw "\"x\""] ∧
      query.build = .ok ⟨.select, "SELECT *\nFROM \"x\"", []⟩ := by
  decide +kernel

end Query

end SqlAssembly
