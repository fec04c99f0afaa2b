import SqlAssembly.Proofs.Identifier.Front
import SqlAssembly.Proofs.Identifier.Reading

/-! # Tokens that are names

A token is to be quoted if it is a name, alone or under an alias.  Those tokens have a name in front and
few words behind it, and so have some expressions, which are quoted as well: a number with a point, and
a name with an operator and an operand behind it.

* `isNumeral`, `isName`, `isIdentifier_iff` — names, and the numbers that are taken for names.
* `IsNamed`, `IsMistaken` — the tokens that ought to be quoted, and those that are quoted beside them.
* `leads_iff` — there are no others.
-/

namespace SqlAssembly

open Text (front behind IsShort)

/-! ## Names and numbers -/

/-- Digits, with one point among them or without. -/
def isNumeral (token : String) : Bool :=
  token.toList.any Char.isDigit && token.toList.all (fun c => c.isDigit || c == '.')
    && token.toList.count '.' ≤ 1

def isName (token : String) : Bool :=
  !token.toList.isEmpty && token.toList.all isNameChar && !isNumeral token

section

variable {token : String}

theorem nameChars_of_isNumeral (numeral : isNumeral token = true) :
    token.toList ≠ [] ∧ token.toList.all isNameChar = true := by
  simp only [isNumeral, Bool.and_eq_true, List.any_eq_true, List.all_eq_true] at numeral ⊢
  obtain ⟨⟨⟨digit, member, -⟩, numeric⟩, -⟩ := numeral
  refine ⟨List.ne_nil_of_mem member, fun c member => ?_⟩
  rcases Bool.or_eq_true _ _ |>.mp (numeric c member) with isDigit | same
  · simp [isNameChar, Char.isAlphanum, isDigit]
  · simp [isNameChar, same]

/-- Only the point tells a numeral from a row of digits. -/
theorem all_isDigit_iff (nonempty : token.toList ≠ []) :
    token.toList.all Char.isDigit = true ↔ isNumeral token = true ∧ '.' ∉ token.toList := by
  simp only [isNumeral, Bool.and_eq_true, List.any_eq_true, List.all_eq_true, decide_eq_true_eq]
  constructor
  · intro digits
    have noPoint : '.' ∉ token.toList := fun member => absurd (digits '.' member) (by decide)
    obtain ⟨c, member⟩ := List.exists_mem_of_ne_nil _ nonempty
    refine ⟨⟨⟨⟨c, member, digits c member⟩, fun d inside => ?_⟩, ?_⟩, noPoint⟩
    · rw [digits d inside, Bool.true_or]
    · rw [List.count_eq_zero_of_not_mem noPoint]
      exact Nat.zero_le 1
  · rintro ⟨⟨⟨-, numeric⟩, -⟩, noPoint⟩ c member
    have other : c ≠ '.' := fun same => noPoint (same ▸ member)
    simpa [other] using numeric c member

/-- What can be a name by its characters is a name, or a numeral with a point. -/
theorem isIdentifier_iff :
    isIdentifier token = true ↔ isName token = true ∨ isNumeral token = true ∧ '.' ∈ token.toList := by
  by_cases empty : token.toList = []
  · simp [isIdentifier, isName, empty]
  · have digits := all_isDigit_iff empty
    have nameChars := @nameChars_of_isNumeral token
    simp only [isIdentifier, isName, Bool.and_eq_true, Bool.not_eq_true', ← Bool.not_eq_true, digits,
      List.isEmpty_iff]
    by_cases numeral : isNumeral token = true <;> simp_all

end

/-! ## Aliases -/

section

-- what may be an alias is left open
variable {isAlias : String → Prop} {token v w : String}

/-- What stands behind a name: nothing, or an alias, with AS in front of it or without. -/
inductive IsAliasing (isAlias : String → Prop) : String → Prop where
  | nothing : IsAliasing isAlias ""
  | word {w : String} : isAlias w → ' ' ∉ w.toList → IsAliasing isAlias (" " ++ w)
  | as {v w : String} : Text.asciiUpper v = "AS" → isAlias w → ' ' ∉ w.toList →
      IsAliasing isAlias (" " ++ v ++ " " ++ w)

/-- A token is a name, alone or under an alias. -/
def IsNamed (isAlias : String → Prop) (token : String) : Prop :=
  isName (front token) = true ∧ IsAliasing isAlias (behind token)

/-- A token is quoted at its front although it is neither a name nor a name under an alias. -/
inductive IsMistaken (isAlias : String → Prop) (token : String) : Prop where
  -- a number with a point, whatever few words follow
  | numeral : isNumeral (front token) = true → '.' ∈ (front token).toList → IsShort (behind token) →
      IsMistaken isAlias token
  -- a name and one word, which is no alias
  | word {w : String} : isName (front token) = true → behind token = " " ++ w → ' ' ∉ w.toList →
      ¬isAlias w → IsMistaken isAlias token
  -- a name and two words, such as an operator with an operand
  | operator {v w : String} : isName (front token) = true → behind token = " " ++ v ++ " " ++ w →
      ' ' ∉ v.toList → ' ' ∉ w.toList → ¬(Text.asciiUpper v = "AS" ∧ isAlias w) → IsMistaken isAlias token

theorem notMem_space_of_as (upper : Text.asciiUpper v = "AS") : ' ' ∉ v.toList := by
  intro member
  have kept : ' ' ∈ (Text.asciiUpper v).toList := by
    rw [Text.asciiUpper, String.toList_ofList]
    exact List.mem_map.mpr ⟨' ', member, by decide⟩
  rw [upper] at kept
  exact absurd kept (by decide)

theorem isAliasing_one_iff (spaceless : ' ' ∉ w.toList) : IsAliasing isAlias (" " ++ w) ↔ isAlias w := by
  refine ⟨fun aliasing => ?_, fun allowed => .word allowed spaceless⟩
  generalize whole : " " ++ w = rest at aliasing
  cases aliasing with
  | nothing => simp at whole
  | word allowed => exact (String.append_right_inj " ").mp whole ▸ allowed
  | as =>
    rw [String.append_assoc, String.append_assoc, String.append_right_inj] at whole
    exact absurd (whole ▸ by simp) spaceless

theorem isAliasing_two_iff (first : ' ' ∉ v.toList) (second : ' ' ∉ w.toList) :
    IsAliasing isAlias (" " ++ v ++ " " ++ w) ↔ Text.asciiUpper v = "AS" ∧ isAlias w := by
  refine ⟨fun aliasing => ?_, fun ⟨upper, allowed⟩ => .as upper allowed second⟩
  generalize whole : " " ++ v ++ " " ++ w = rest at aliasing
  cases aliasing with
  | nothing => simp at whole
  | word _ spaceless =>
    rw [String.append_assoc, String.append_assoc, String.append_right_inj] at whole
    exact absurd (whole ▸ by simp) spaceless
  | @as k a upper allowed =>
    simp only [String.append_assoc] at whole
    rw [String.append_right_inj] at whole
    have spaced (t : String) : Text.BeginsSpaced (" " ++ t) := by simp [Text.BeginsSpaced]
    -- both words end at the first space
    have same := congrArg front whole
    rw [Text.front_append first (spaced w), Text.front_append (notMem_space_of_as upper) (spaced a)] at same
    subst same
    rw [String.append_right_inj, String.append_right_inj] at whole
    exact ⟨upper, whole ▸ allowed⟩

theorem IsAliasing.isShort {rest : String} (aliasing : IsAliasing isAlias rest) : IsShort rest := by
  cases aliasing with
  | nothing => exact .nothing
  | word _ spaceless => exact .one spaceless
  | as upper _ spaceless => exact .two (notMem_space_of_as upper) spaceless

/-! ## Named and mistaken tokens -/

theorem IsMistaken.not_isNamed (mistaken : IsMistaken isAlias token) : ¬IsNamed isAlias token := by
  rintro ⟨name, aliasing⟩
  cases mistaken with
  | numeral numeral => simp [isName, numeral] at name
  | word _ shape spaceless other =>
    rw [shape, isAliasing_one_iff spaceless] at aliasing
    exact other aliasing
  | operator _ shape first second other =>
    rw [shape, isAliasing_two_iff first second] at aliasing
    exact other aliasing

/-- The tokens that are quoted are those that are named and those that are mistaken for them. -/
theorem leads_iff (isAlias : String → Prop) :
    Leads token ↔ IsNamed isAlias token ∨ IsMistaken isAlias token := by
  rw [Leads, isIdentifier_iff]
  constructor
  · rintro ⟨name | ⟨numeral, point⟩, short⟩
    · generalize shape : behind token = rest at short
      cases short with
      | nothing => exact .inl ⟨name, shape ▸ .nothing⟩
      | @one w spaceless =>
        by_cases allowed : isAlias w
        · exact .inl ⟨name, shape ▸ .word allowed spaceless⟩
        · exact .inr (.word name shape spaceless allowed)
      | @two v w first second =>
        by_cases allowed : Text.asciiUpper v = "AS" ∧ isAlias w
        · exact .inl ⟨name, shape ▸ .as allowed.1 allowed.2 second⟩
        · exact .inr (.operator name shape first second allowed)
    · exact .inr (.numeral numeral point short)
  · rintro (⟨name, aliasing⟩ | mistaken)
    · exact ⟨.inl name, aliasing.isShort⟩
    · cases mistaken with
      | numeral numeral point short => exact ⟨.inr ⟨numeral, point⟩, short⟩
      | word name shape spaceless => exact ⟨.inl name, shape ▸ .one spaceless⟩
      | operator name shape first second => exact ⟨.inl name, shape ▸ .two first second⟩

end

namespace Dialect

section

variable {dialect : Dialect} {name : String}

theorem readItems_of_isIdentifier (identifier : isIdentifier name = true) :
    readItems dialect.identifierQuote name.toList = none := by
  have noItem : readItem dialect.identifierQuote name.toList = none := by
    rw [isIdentifier, Bool.and_eq_true, Bool.and_eq_true, List.all_eq_true] at identifier
    cases chars : name.toList with
    | nil => rfl
    | cons c cs =>
      have nameChar := identifier.1.2 c (chars ▸ List.mem_cons_self)
      have noQuote : c ≠ dialect.identifierQuote := by
        rintro rfl
        revert nameChar
        cases dialect <;> decide
      have noStar : c ≠ '*' := by
        rintro rfl
        revert nameChar
        decide
      rw [readItem, if_neg noQuote, if_neg noStar]
  rw [readItems]
  split
  · rename_i found
    cases noItem.symm.trans found
  · rename_i found
    cases noItem.symm.trans found
  · rfl

/-- What stands between quotes is no name any more. -/
theorem isIdentifier_quoteIdentifier (quoted : dialect = .sqlite → '.' ∉ name.toList) :
    isIdentifier (dialect.quoteIdentifier name) = false := by
  rw [← Bool.not_eq_true]
  intro identifier
  have read := readIdentifier_whole quoted
  rw [readIdentifier, readItems_of_isIdentifier identifier] at read
  cases read

/-- A name is quoted unless it is dotted and the dialect leaves dotted names as they are. -/
theorem quoteIdentifier_eq_self_iff (identifier : isIdentifier name = true) :
    dialect.quoteIdentifier name = name ↔ dialect = .sqlite ∧ '.' ∈ name.toList := by
  constructor
  · intro same
    by_cases bare : dialect = .sqlite ∧ '.' ∈ name.toList
    · exact bare
    · have unnamed := isIdentifier_quoteIdentifier fun lite dotted => bare ⟨lite, dotted⟩
      rw [same, identifier] at unnamed
      cases unnamed
  · rintro ⟨rfl, dotted⟩
    rw [quoteIdentifier, if_pos]
    simpa using ⟨dotted, rfl⟩

end

/-- **Which tokens are quoted.**  Whatever may be an alias, a name alone or under an alias has its name
quoted and keeps the rest.  Of the other tokens those that are mistaken for one are changed in the same
way, unless the dialect leaves dotted names as they are and the front is dotted, and no others. -/
theorem quoteToken_named (dialect : Dialect) (isAlias : String → Prop) (token : String) :
    (IsNamed isAlias token ∨ IsMistaken isAlias token →
        dialect.quoteToken token = dialect.quoteIdentifier (front token) ++ behind token) ∧
      (¬IsNamed isAlias token → (dialect.quoteToken token = token ↔
        (IsMistaken isAlias token → dialect = .sqlite ∧ '.' ∈ (front token).toList))) := by
  have quoted (leads : Leads token) :
      dialect.quoteToken token = dialect.quoteIdentifier (front token) ++ behind token :=
    quoteToken_of_leads leads
  refine ⟨fun either => quoted ((leads_iff isAlias).mpr either), fun unnamed => ?_⟩
  by_cases mistaken : IsMistaken isAlias token
  · have leads : Leads token := (leads_iff isAlias).mpr (.inr mistaken)
    rw [quoted leads, ← quoteIdentifier_eq_self_iff leads.1]
    refine ⟨fun same _ => ?_, fun same => ?_⟩
    · exact (String.append_left_inj (behind token)).mp (same.trans (Text.front_append_behind token).symm)
    · rw [same mistaken, Text.front_append_behind]
  · have other : ¬Leads token := fun leads => ((leads_iff isAlias).mp leads).elim unnamed mistaken
    exact ⟨fun _ itIs => absurd itIs mistaken, fun _ => quoteToken_of_not_leads other⟩

/-- A dotted name under an alias that is quoted itself, and a call, which is no name. -/
theorem quoteToken_named_alias :
    let token := "public.users As \"u?\""
    let isAlias (w : String) : Prop := w.toList.head? = some '"'
    IsNamed isAlias token ∧ mysql.quoteToken token = "\x60public\x60.\x60users\x60 As \"u?\"" ∧
      ¬IsNamed isAlias "COUNT(*) \"n\"" ∧ mysql.quoteToken "COUNT(*) \"n\"" = "COUNT(*) \"n\"" := by
  intro token isAlias
  have rest : behind token = " " ++ "As" ++ " " ++ "\"u?\"" := by decide
  have allowed : isAlias "\"u?\"" := by decide
  have named : IsNamed isAlias token := ⟨by decide, rest ▸ .as (by decide) allowed (by decide)⟩
  have call : ¬Leads "COUNT(*) \"n\"" := fun leads => absurd leads.1 (by decide)
  have unnamed : ¬IsNamed isAlias "COUNT(*) \"n\"" := fun named => call ((leads_iff isAlias).mpr (.inl named))
  refine ⟨named, ((quoteToken_named mysql isAlias token).1 (.inl named)).trans (by decide), unnamed, ?_⟩
  refine ((quoteToken_named mysql isAlias _).2 unnamed).mpr fun mistaken => ?_
  exact absurd ((leads_iff isAlias).mpr (.inr mistaken)) call

/-- A sum of two names and a number with a point.  Neither is a name, whatever may be an alias, and both
are changed. -/
theorem quoteToken_quotes_expressions :
    (∀ isAlias, ¬IsNamed isAlias "a + b" ∧ ¬IsNamed isAlias "1.5") ∧ isNumeral "1.5" = true ∧
      generic.quoteToken "a + b" = "\"a\" + b" ∧ generic.quoteToken "1.5" = "\"1\".\"5\"" := by
  refine ⟨fun isAlias => ?_, by decide, by decide, by decide⟩
  have sum : IsMistaken isAlias "a + b" :=
    .operator (v := "+") (w := "b") (by decide) (by decide) (by decide) (by decide)
      fun allowed => absurd allowed.1 (by decide)
  have number : IsMistaken isAlias "1.5" := .numeral (by decide) (by decide) .nothing
  exact ⟨sum.not_isNamed, number.not_isNamed⟩

end Dialect

end SqlAssembly
