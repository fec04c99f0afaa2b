import SqlAssembly.Proofs.Identifier.Front
import SqlAssembly.Proofs.Keywords

/-! # Names and tokens that stay bare

A dialect that does not quote dotted names writes them as they are, and a token that is no name is
written as it is by every dialect.  These are the *bare* texts of names and tokens.  Everything else
that names and tokens add to a statement is between quotes, so only a bare text can say something to
a scan for keywords.

* `Dialect.bareName`, `Dialect.bareToken` — what stays bare of a name and of a token.
* `Dialect.isSilent_quoteIdentifier`, `Dialect.isSilent_quoteToken` — the rest is silent.
-/

namespace SqlAssembly

namespace Dialect

variable {dialect : Dialect} {name token : String}

/-- A name that the dialect does not quote. -/
def bareName (dialect : Dialect) (name : String) : List String :=
  if name.toList.contains '.' && !dialect.quotesDotted then [name] else []

/-- A token that is no name, or a name that the dialect does not quote. -/
def bareToken (dialect : Dialect) (token : String) : List String :=
  if isIdentifier token then dialect.bareName token else [token]

/-! ## Names -/

theorem isSilent_quoteSegment (segment : String) : IsSilent (dialect.quoteSegment segment) := by
  unfold quoteSegment
  split
  · rename_i all
    rw [all]
    decide
  · exact .quoted (by cases dialect <;> rfl) segment

theorem isSilent_quoteIdentifier (silent : ∀ text ∈ dialect.bareName name, IsSilent text) :
    IsSilent (dialect.quoteIdentifier name) := by
  unfold bareName at silent
  unfold quoteIdentifier
  split
  · rename_i bare
    rw [if_pos bare] at silent
    exact silent name List.mem_cons_self
  · refine .intercalate (by decide) fun text member => ?_
    obtain ⟨segment, -, rfl⟩ := List.mem_map.mp member
    exact isSilent_quoteSegment segment

theorem isSilent_of_name (silent : IsSilent name) : IsSilent (dialect.quoteIdentifier name) := by
  refine isSilent_quoteIdentifier fun text member => ?_
  unfold bareName at member
  split at member
  · rwa [List.mem_singleton.mp member]
  · cases member

/-! ## Tokens -/

theorem startsWord_of_beginsSpaced {text : String} (spaced : Text.BeginsSpaced text) :
    startsWord text.toList = false := by
  rw [Text.BeginsSpaced] at spaced
  rw [startsWord]
  cases first : text.toList.head? with
  | none => rfl
  | some c =>
    rw [first, Option.all_some, beq_iff_eq] at spaced
    rw [spaced]
    rfl

theorem regionAfter_of_isIdentifier (identifier : isIdentifier name = true) :
    regionAfter none name.toList = none := by
  unfold isIdentifier at identifier
  simp only [Bool.and_eq_true, List.all_eq_true] at identifier
  refine regionAfter_of_closingChar? fun c member => ?_
  have nameChar := identifier.1.2 c member
  rw [isNameChar, Bool.or_eq_true, beq_iff_eq] at nameChar
  obtain inWord | rfl := nameChar
  · exact closingChar?_of_isKeywordChar inWord
  · rfl

theorem isSilent_quoteToken (silent : ∀ text ∈ dialect.bareToken token, IsSilent text) :
    IsSilent (dialect.quoteToken token) := by
  by_cases identifier : isIdentifier token = true
  · rw [bareToken, if_pos identifier] at silent
    rw [quoteToken, if_pos identifier]
    exact isSilent_quoteIdentifier silent
  · rw [bareToken, if_neg identifier] at silent
    have whole := silent token List.mem_cons_self
    by_cases leads : Leads token
    · -- no keyword reaches across the border between the name and the words behind it
      have border : startsWord (Text.behind token).toList = false := startsWord_of_beginsSpaced leads.2.beginsSpaced
      rw [← Text.front_append_behind token] at whole
      obtain ⟨front, words⟩ := whole.of_append (regionAfter_of_isIdentifier leads.1) (.inr border)
      rw [quoteToken_of_leads leads]
      exact (isSilent_of_name front).append words (.inr border)
    · rwa [quoteToken_of_not_leads leads]

theorem isSilent_groupItem (silent : ∀ text ∈ dialect.bareToken token, IsSilent text) :
    IsSilent (dialect.groupItem token) := by
  unfold bareToken at silent
  unfold groupItem
  split
  · rename_i identifier
    rw [if_pos identifier] at silent
    exact isSilent_quoteIdentifier silent
  · rename_i noName
    rw [if_neg noName] at silent
    exact silent token List.mem_cons_self

end Dialect

/-! ## Order specifications and joins -/

/-- What stays bare of an item of an ORDER BY list. -/
def OrderSpec.bareTexts (dialect : Dialect) : OrderSpec → List String
  | .column name _ => dialect.bareToken name
  | .expression text => [text]

theorem OrderSpec.isSilent_sql {dialect : Dialect} {spec : OrderSpec}
    (silent : ∀ text ∈ spec.bareTexts dialect, IsSilent text) : IsSilent (spec.sql dialect) := by
  cases spec with
  | column name direction =>
    have keyword : IsSilent direction.keyword := by cases direction <;> decide
    exact (Dialect.isSilent_quoteToken silent).between (by decide) keyword
  | expression text => exact silent text List.mem_cons_self

/-- The words of a join that are the caller's, in the case in which they are written. -/
def JoinKind.bareTexts : JoinKind → List String
  | .custom words => [Text.asciiUpper (Text.trim words)]
  | _ => []

theorem JoinKind.isSilent_keyword {kind : JoinKind} (silent : ∀ text ∈ kind.bareTexts, IsSilent text) :
    IsSilent kind.keyword := by
  cases kind with
  | custom words => exact (silent _ List.mem_cons_self).before (by decide)
  | natural | inner | left | right | full | cross => exact by decide

end SqlAssembly
