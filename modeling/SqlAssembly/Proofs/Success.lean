import Mathlib.Data.List.Forall2

/-! # What follows from success

A computation of several steps succeeds only if each step does, so a result that it has
comes from a result of every step.

* `exists_of_bind_eq_ok`, `bind_eq_ok_iff` — the results of two steps.
* `forall₂_of_mapM`, `mapM_eq_ok_iff` — the results of one step for each element of a list,
  side by side with the elements.
-/

namespace SqlAssembly

theorem exists_of_bind_eq_ok {ε α β : Type} {first : Except ε α} {next : α → Except ε β} {b : β}
    (succeeded : first >>= next = .ok b) : ∃ a, first = .ok a ∧ next a = .ok b := by
  cases first with
  | error e => cases succeeded
  | ok a => exact ⟨a, rfl, succeeded⟩

theorem bind_eq_ok_iff {ε α β : Type} {first : Except ε α} {next : α → Except ε β} {b : β} :
    first >>= next = .ok b ↔ ∃ a, first = .ok a ∧ next a = .ok b := by
  refine ⟨exists_of_bind_eq_ok, ?_⟩
  rintro ⟨a, rfl, succeeded⟩
  exact succeeded

/-! ## Lists side by side -/

theorem forall₂_of_mapM {ε α β : Type} {f : α → Except ε β} {xs : List α} {ys : List β}
    (mapped : xs.mapM f = .ok ys) : List.Forall₂ (fun x y => f x = .ok y) xs ys := by
  induction xs generalizing ys with
  | nil =>
    rw [List.mapM_nil] at mapped
    cases mapped
    exact .nil
  | cons x xs inductionHypothesis =>
    rw [List.mapM_cons] at mapped
    obtain ⟨y, head, mapped⟩ := exists_of_bind_eq_ok mapped
    obtain ⟨others, rest, mapped⟩ := exists_of_bind_eq_ok mapped
    cases mapped
    exact .cons head (inductionHypothesis rest)

theorem exists_of_mem_mapM {ε α β : Type} {f : α → Except ε β} {xs : List α} {ys : List β} {y : β}
    (mapped : xs.mapM f = .ok ys) (member : y ∈ ys) : ∃ x ∈ xs, f x = .ok y := by
  have related := forall₂_of_mapM mapped
  clear mapped
  induction related with
  | nil => cases member
  | cons head _ inductionHypothesis =>
    obtain rfl | later := List.mem_cons.mp member
    · exact ⟨_, List.mem_cons_self, head⟩
    · obtain ⟨x, present, found⟩ := inductionHypothesis later
      exact ⟨x, List.mem_cons_of_mem _ present, found⟩

theorem mapM_of_forall₂ {ε α β : Type} {f : α → Except ε β} {xs : List α} {ys : List β}
    (related : List.Forall₂ (fun x y => f x = .ok y) xs ys) : xs.mapM f = .ok ys := by
  induction related with
  | nil => rfl
  | cons head _ inductionHypothesis =>
    rw [List.mapM_cons, head, inductionHypothesis]
    rfl

theorem mapM_eq_ok_iff {ε α β : Type} {f : α → Except ε β} {xs : List α} {ys : List β} :
    xs.mapM f = .ok ys ↔ List.Forall₂ (fun x y => f x = .ok y) xs ys :=
  ⟨forall₂_of_mapM, mapM_of_forall₂⟩

theorem mapM_of_forall_mem {ε α β : Type} {f : α → Except ε β} {g : α → β} {xs : List α}
    (succeeds : ∀ x ∈ xs, f x = .ok (g x)) : xs.mapM f = .ok (xs.map g) :=
  mapM_of_forall₂ (List.forall₂_map_right_iff.mpr (List.forall₂_same.mpr succeeds))

theorem forall₂_beside {α β γ : Type} {r : α → β → Prop} {s : α → γ → Prop} {xs : List α}
    {ys : List β} {zs : List γ} (left : List.Forall₂ r xs ys) (right : List.Forall₂ s xs zs) :
    List.Forall₂ (fun y z => ∃ x ∈ xs, r x y ∧ s x z) ys zs := by
  induction left generalizing zs with
  | nil =>
    cases right
    exact .nil
  | cons head _ inductionHypothesis =>
    cases right with
    | cons headToo rest =>
      refine .cons ⟨_, List.mem_cons_self, head, headToo⟩ ((inductionHypothesis rest).imp ?_)
      rintro y z ⟨x, member, related⟩
      exact ⟨x, List.mem_cons_of_mem _ member, related⟩

theorem exists_of_forall₂_map {α β γ : Type} {r : α → β → Prop} {g : β → γ} {xs : List α}
    {zs : List γ} (related : List.Forall₂ (fun x z => ∃ y, r x y ∧ z = g y) xs zs) :
    ∃ ys, List.Forall₂ r xs ys ∧ zs = ys.map g := by
  induction related with
  | nil => exact ⟨[], .nil, rfl⟩
  | cons head _ inductionHypothesis =>
    obtain ⟨y, first, rfl⟩ := head
    obtain ⟨ys, rest, rfl⟩ := inductionHypothesis
    exact ⟨y :: ys, .cons first rest, rfl⟩

theorem forall₂_of_forall_mem {α β : Type} {r s : α → β → Prop} {xs : List α} {ys : List β}
    (related : List.Forall₂ r xs ys) (stronger : ∀ x y, x ∈ xs → r x y → s x y) :
    List.Forall₂ s xs ys := by
  have members : List.Forall₂ (fun x y => x ∈ xs ∧ r x y) xs ys :=
    (List.forall₂_and_left xs ys).mpr ⟨fun _ member => member, related⟩
  exact members.imp fun x y ⟨member, holds⟩ => stronger x y member holds

end SqlAssembly
