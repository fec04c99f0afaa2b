import SqlAssembly.Fragment.Basic

/-! # Texts inside fragments

Whatever is made of a fragment by joining and enclosing has the text of the
fragment in it.

* `Text.IsWithin` — a text that stands somewhere in another one.
* `Fragment.isWithin_join` — joined fragments have the text of each of them.
-/

namespace SqlAssembly

namespace Text

/-- A text that stands somewhere in another one. -/
def IsWithin (part whole : String) : Prop := part.toList <:+: whole.toList

theorem IsWithin.refl (s : String) : IsWithin s s := List.infix_rfl

theorem IsWithin.trans {r s t : String} (inner : IsWithin r s) (outer : IsWithin s t) :
    IsWithin r t := List.IsInfix.trans inner outer

theorem isWithin_append (before s after : String) : IsWithin s (before ++ s ++ after) :=
  ⟨before.toList, after.toList, by simp⟩

theorem isWithin_append_left (s after : String) : IsWithin s (s ++ after) := by
  simpa using isWithin_append "" s after

theorem isWithin_append_right (before s : String) : IsWithin s (before ++ s) := by
  simpa using isWithin_append before s ""

theorem empty_isWithin (s : String) : IsWithin "" s := by
  simpa using isWithin_append_left "" s

theorem IsWithin.isBlank {s t : String} (within : IsWithin s t) (visible : isBlank s = false) :
    isBlank t = false := by
  rw [Text.isBlank, List.all_eq_false] at visible ⊢
  obtain ⟨c, member, present⟩ := visible
  exact ⟨c, within.subset member, present⟩

end Text

namespace Fragment

theorem isWithin_append_left (f g : Fragment) (separator : String) :
    Text.IsWithin f.sql (f.append g separator).sql := by
  unfold append
  split
  · exact .refl f.sql
  · split
    · rename_i nothing
      rw [String.isEmpty_iff.mp nothing]
      exact Text.empty_isWithin g.sql
    · rw [String.append_assoc]
      exact Text.isWithin_append_left f.sql _

theorem isWithin_append_right (f g : Fragment) (separator : String) :
    Text.IsWithin g.sql (f.append g separator).sql := by
  unfold append
  split
  · rename_i nothing
    rw [String.isEmpty_iff.mp nothing]
    exact Text.empty_isWithin f.sql
  · split
    · exact .refl g.sql
    · exact Text.isWithin_append_right _ g.sql

theorem isWithin_foldl_append (fragments : List Fragment) (f : Fragment) (separator : String) :
    Text.IsWithin f.sql (fragments.foldl (fun joined g => joined.append g separator) f).sql := by
  induction fragments generalizing f with
  | nil => exact .refl f.sql
  | cons g rest inductionHypothesis =>
    exact (isWithin_append_left f g separator).trans (inductionHypothesis _)

theorem isWithin_join {combinator : Combinator} {fragments : List Fragment} {f : Fragment}
    (member : f ∈ fragments) : Text.IsWithin f.sql (join combinator fragments).sql := by
  unfold join
  generalize empty = start
  induction fragments generalizing start with
  | nil => cases member
  | cons g rest inductionHypothesis =>
    rcases List.mem_cons.mp member with rfl | later
    · exact (isWithin_append_right start f combinator.text).trans (isWithin_foldl_append rest _ _)
    · exact inductionHypothesis later _

theorem isWithin_parenthesize (f : Fragment) : Text.IsWithin f.sql f.parenthesize.sql :=
  Text.isWithin_append "( " f.sql " )"

end Fragment

end SqlAssembly
