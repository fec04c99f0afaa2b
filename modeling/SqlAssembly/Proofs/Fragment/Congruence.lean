import Mathlib.Data.List.Forall2
import Mathlib.Data.Option.Defs
import SqlAssembly.Proofs.Fragment.Scanner

/-! # Congruences of fragments

Everything that is said here about two runs, or about a run and a reference, is said by a
relation between fragments.  Assembling a statement only writes verbatim text, puts
fragments one after another and asks whether a text is empty or blank, so a relation that
these four respect holds between statements as soon as it holds between the fragments
they are made of.

* `Agree` — two results that are both refused, or both given and related.
* `Congruence` — the four conditions.
* `Congruence.append`, `Congruence.join`, `Congruence.listed` — the ways in which
  fragments are joined.
-/

namespace SqlAssembly

/-! ## Results -/

/-- Two results agree when both are refused, or both are given and related. -/
inductive Agree {ε α β : Type} (rel : α → β → Prop) : Except ε α → Except ε β → Prop where
  | refused (e e' : ε) : Agree rel (.error e) (.error e')
  | given {a : α} {b : β} (related : rel a b) : Agree rel (.ok a) (.ok b)

namespace Agree

variable {ε α β γ δ : Type} {rel : α → β → Prop}

theorem bind {result : γ → δ → Prop} {x : Except ε α} {y : Except ε β}
    {f : α → Except ε γ} {g : β → Except ε δ} (agree : Agree rel x y)
    (next : ∀ a b, rel a b → Agree result (f a) (g b)) : Agree result (x >>= f) (y >>= g) := by
  cases agree with
  | refused e e' => exact .refused e e'
  | given related => exact next _ _ related

theorem mapM {f : γ → Except ε α} {g : δ → Except ε β} {xs : List γ} {ys : List δ}
    (elements : List.Forall₂ (fun x y => Agree rel (f x) (g y)) xs ys) :
    Agree (List.Forall₂ rel) (xs.mapM f) (ys.mapM g) := by
  -- the first refusal ends both runs, at the same element
  induction elements with
  | nil => exact .given .nil
  | cons head _ inductionHypothesis =>
    rw [List.mapM_cons, List.mapM_cons]
    refine head.bind fun a b related => ?_
    refine inductionHypothesis.bind fun as bs rest => ?_
    exact .given (.cons related rest)

theorem mono {result : α → β → Prop} {x : Except ε α} {y : Except ε β} (agree : Agree rel x y)
    (weaker : ∀ a b, rel a b → result a b) : Agree result x y := by
  cases agree with
  | refused e e' => exact .refused e e'
  | given related => exact .given (weaker _ _ related)

end Agree

theorem isEmpty_eq_of_forall₂ {α β : Type} {rel : α → β → Prop} {xs : List α} {ys : List β}
    (related : List.Forall₂ rel xs ys) : xs.isEmpty = ys.isEmpty := by
  cases related <;> rfl

/-! ## Congruences -/

/-- A relation between fragments that assembly respects. -/
structure Congruence (rel : Fragment → Fragment → Prop) : Prop where
  verbatim {t : String} : IsVerbatim t → rel (.raw t) (.raw t)
  concat {f f' g g' : Fragment} : rel f f' → rel g g' → rel (f ++ g) (f' ++ g')
  isEmpty {f f' : Fragment} : rel f f' → f.sql.isEmpty = f'.sql.isEmpty
  isBlank {f f' : Fragment} : rel f f' → f.isBlank = f'.isBlank

/-- A text that may stand in related fragments. -/
abbrev Admits (rel : Fragment → Fragment → Prop) (t : String) : Prop := rel (.raw t) (.raw t)

namespace Fragment

/-- The fragments of a list with a separator between any two of them, empty ones too. -/
def listed (separator : String) (fragments : List Fragment) : Fragment :=
  ⟨separator.intercalate (fragments.map sql), fragments.flatMap params⟩

theorem listed_singleton (separator : String) (f : Fragment) : listed separator [f] = f := by
  simp [listed]

theorem concat_raw_concat (f g : Fragment) (t : String) :
    f ++ raw t ++ g = ⟨f.sql ++ t ++ g.sql, f.params ++ g.params⟩ := by
  change Fragment.mk _ (f.params ++ [] ++ g.params) = _
  rw [List.append_nil]
  rfl

theorem listed_cons_cons (separator : String) (f g : Fragment) (rest : List Fragment) :
    listed separator (f :: g :: rest) = f ++ raw separator ++ listed separator (g :: rest) := by
  rw [concat_raw_concat]
  simp only [listed, List.map_cons, String.intercalate_cons_cons, List.flatMap_cons]

theorem raw_intercalate (separator : String) (texts : List String) :
    raw (separator.intercalate texts) = listed separator (texts.map raw) := by
  have noParams : texts.flatMap (params ∘ raw) = [] := by
    simp [Function.comp_def]
  simp only [listed, List.map_map, List.flatMap_map, raw]
  congr 1
  · congr 1
    simp [Function.comp_def]
  · exact noParams.symm

theorem append_eq (f g : Fragment) (separator : String) :
    f.append g separator =
      if g.sql.isEmpty ∨ f.sql.isEmpty then f ++ g else f ++ raw separator ++ g := by
  -- next to an empty text there is no separator, and the empty text adds nothing
  by_cases right : g.sql.isEmpty = true
  · have nothing : g.sql = "" := String.isEmpty_iff.mp right
    rw [append, if_pos right, if_pos (Or.inl right)]
    change Fragment.mk f.sql _ = Fragment.mk (f.sql ++ g.sql) _
    rw [nothing, String.append_empty]
  · by_cases left : f.sql.isEmpty = true
    · have nothing : f.sql = "" := String.isEmpty_iff.mp left
      rw [append, if_neg right, if_pos left, if_pos (Or.inr left)]
      change Fragment.mk g.sql _ = Fragment.mk (f.sql ++ g.sql) _
      rw [nothing, String.empty_append]
    · rw [append, if_neg right, if_neg left, if_neg (not_or.mpr ⟨right, left⟩), concat_raw_concat]

theorem enclose_eq (f : Fragment) (before after : String) :
    ⟨before ++ f.sql ++ after, f.params⟩ = raw before ++ f ++ raw after := by
  change _ = Fragment.mk _ ([] ++ f.params ++ [])
  rw [List.append_nil]
  rfl

end Fragment

namespace Congruence

variable {rel : Fragment → Fragment → Prop} {f f' g g' : Fragment}

/-- A text without marks, such as a keyword, may always stand in related fragments. -/
theorem plain (congruence : Congruence rel) {t : String} (unmarked : Text.marks t = []) :
    Admits rel t :=
  congruence.verbatim (.of_marks_eq_nil unmarked)

theorem append (congruence : Congruence rel) {separator : String} (between : Admits rel separator)
    (left : rel f f') (right : rel g g') :
    rel (f.append g separator) (f'.append g' separator) := by
  rw [Fragment.append_eq, Fragment.append_eq, congruence.isEmpty left, congruence.isEmpty right]
  split
  · exact congruence.concat left right
  · exact congruence.concat (congruence.concat left between) right

theorem foldl_append (congruence : Congruence rel) {separator : String}
    (between : Admits rel separator) {fragments fragments' : List Fragment}
    (start : rel f f') (related : List.Forall₂ rel fragments fragments') :
    rel (fragments.foldl (fun joined f => joined.append f separator) f)
      (fragments'.foldl (fun joined f => joined.append f separator) f') := by
  induction related generalizing f f' with
  | nil => exact start
  | cons head _ inductionHypothesis =>
    exact inductionHypothesis (congruence.append between start head)

theorem join (congruence : Congruence rel) {combinator : Combinator}
    (between : Admits rel combinator.text) {fragments fragments' : List Fragment}
    (related : List.Forall₂ rel fragments fragments') :
    rel (Fragment.join combinator fragments) (Fragment.join combinator fragments') :=
  congruence.foldl_append between (congruence.plain rfl) related

theorem listed (congruence : Congruence rel) {separator : String} (between : Admits rel separator)
    {fragments fragments' : List Fragment} (related : List.Forall₂ rel fragments fragments') :
    rel (.listed separator fragments) (.listed separator fragments') := by
  induction related with
  | nil => exact congruence.plain rfl
  | @cons f f' fragments fragments' head rest inductionHypothesis =>
    cases rest with
    | nil => rwa [Fragment.listed_singleton, Fragment.listed_singleton]
    | cons _ _ =>
      rw [Fragment.listed_cons_cons, Fragment.listed_cons_cons]
      exact congruence.concat (congruence.concat head between) inductionHypothesis

theorem prefixed (congruence : Congruence rel) {lead : String} (allowed : Admits rel lead)
    (related : rel f f') : rel (f.prefixed lead) (f'.prefixed lead) :=
  congruence.concat allowed related

/-- A fragment between two texts, such as the parentheses of a group. -/
theorem enclose (congruence : Congruence rel) {before after : String}
    (front : Admits rel before) (back : Admits rel after) (related : rel f f') :
    rel ⟨before ++ f.sql ++ after, f.params⟩ ⟨before ++ f'.sql ++ after, f'.params⟩ := by
  rw [Fragment.enclose_eq, Fragment.enclose_eq]
  exact congruence.concat (congruence.concat front related) back

theorem parenthesize (congruence : Congruence rel) (related : rel f f') :
    rel f.parenthesize f'.parenthesize :=
  congruence.enclose (congruence.plain rfl)
    (congruence.plain rfl) related

theorem negate (congruence : Congruence rel) (related : rel f f') : rel f.negate f'.negate :=
  congruence.enclose (congruence.plain rfl)
    (congruence.plain rfl) related

/-! ### Admitted texts -/

theorem admits_append (congruence : Congruence rel) {s t : String} (left : Admits rel s)
    (right : Admits rel t) : Admits rel (s ++ t) :=
  congruence.concat left right

theorem admits_intercalate (congruence : Congruence rel) {separator : String} {texts : List String}
    (between : Admits rel separator) (allowed : ∀ t ∈ texts, Admits rel t) :
    Admits rel (separator.intercalate texts) := by
  rw [Admits, Fragment.raw_intercalate]
  refine congruence.listed between ?_
  rw [List.forall₂_map_left_iff, List.forall₂_map_right_iff]
  exact List.forall₂_same.mpr allowed

/-- The items of a list in a statement, behind a keyword. -/
theorem admits_items (congruence : Congruence rel) {α : Type} {keyword : String} {item : α → String}
    {items : List α} (front : Admits rel keyword) (allowed : ∀ x ∈ items, Admits rel (item x)) :
    Admits rel (keyword ++ ", ".intercalate (items.map item)) := by
  refine congruence.admits_append front (congruence.admits_intercalate (congruence.plain rfl) ?_)
  intro t member
  obtain ⟨x, present, rfl⟩ := List.mem_map.mp member
  exact allowed x present

end Congruence

/-- The least congruence: a balanced fragment and itself. -/
theorem congruence_isBalanced : Congruence fun f f' => f = f' ∧ f.IsBalanced where
  verbatim verbatim := ⟨rfl, verbatim⟩
  concat left right := ⟨by rw [left.1, right.1], left.2.append right.2⟩
  isEmpty related := by rw [related.1]
  isBlank related := by rw [related.1]

theorem IsVerbatim.intercalate {separator : String} {texts : List String}
    (between : IsVerbatim separator) (verbatim : ∀ t ∈ texts, IsVerbatim t) :
    IsVerbatim (separator.intercalate texts) :=
  (congruence_isBalanced.admits_intercalate ⟨rfl, between⟩ fun t member =>
    ⟨rfl, verbatim t member⟩).2

end SqlAssembly
