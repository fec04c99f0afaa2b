import SqlAssembly.Proofs.Text.Marks
import SqlAssembly.Proofs.Text.Words

/-! # The name at the front of a token

A token is cut at its spaces.  Its front, the text up to the first of them, is quoted where it can be a
name and where no more than two words follow; every other token stays as it is.

* `Text.front`, `Text.behind` — a token up to its first space, and from there on.
* `Leads` — a token has a name in front and few words behind it.
* `Dialect.quoteToken_of_leads`, `Dialect.quoteToken_of_not_leads` — what becomes of a token.
-/

namespace SqlAssembly

namespace Text

def front (s : String) : String := String.ofList (s.toList.takeWhile (· != ' '))

/-- The text from the first space on. -/
def behind (s : String) : String := String.ofList (s.toList.dropWhile (· != ' '))

/-- Nothing, or one or two words with a space in front of each. -/
inductive IsShort : String → Prop where
  | nothing : IsShort ""
  | one {w : String} : ' ' ∉ w.toList → IsShort (" " ++ w)
  | two {v w : String} : ' ' ∉ v.toList → ' ' ∉ w.toList → IsShort (" " ++ v ++ " " ++ w)

variable {s t w : String}

theorem front_append_behind (s : String) : front s ++ behind s = s := by
  rw [front, behind, ← String.ofList_append, List.takeWhile_append_dropWhile, String.ofList_toList]

/-- A text begins with a space or is empty. -/
def BeginsSpaced (s : String) : Prop := s.toList.head?.all (· == ' ') = true

theorem IsShort.beginsSpaced (short : IsShort s) : BeginsSpaced s := by
  cases short <;> simp [BeginsSpaced]

theorem front_append (spaceless : ' ' ∉ w.toList) (spaced : BeginsSpaced t) : front (w ++ t) = w := by
  have inside : ∀ c ∈ w.toList, (c != ' ') = true := by
    intro c member
    rw [bne_iff_ne]
    rintro rfl
    exact spaceless member
  have stops : t.toList.takeWhile (· != ' ') = [] := by
    rw [BeginsSpaced] at spaced
    cases chars : t.toList with
    | nil => rfl
    | cons c cs =>
      rw [chars] at spaced
      simp_all
  rw [front, String.toList_append, List.takeWhile_append_of_pos inside, stops, List.append_nil,
    String.ofList_toList]

theorem behind_append (spaceless : ' ' ∉ w.toList) (spaced : BeginsSpaced t) : behind (w ++ t) = t := by
  have whole := front_append_behind (w ++ t)
  rw [front_append spaceless spaced] at whole
  exact String.append_right_inj w |>.mp whole

/-! ## Pieces between spaces -/

theorem splitAtChar_of_notMem {separator : Char} (absent : separator ∉ s.toList) :
    splitAtChar separator s = [s] := by
  rw [splitAtChar, List.splitOnP_eq_singleton]
  · simp
  · intro c member
    rw [beq_eq_false_iff_ne]
    rintro rfl
    exact absent member

theorem splitAtChar_append (separator : Char) (s t : String) :
    splitAtChar separator (s ++ String.singleton separator ++ t) =
      splitAtChar separator s ++ splitAtChar separator t := by
  have cut := List.splitOnP_append_cons (p := (· == separator)) s.toList t.toList (beq_self_eq_true separator)
  rw [splitAtChar, String.toList_append, String.toList_append, String.toList_singleton,
    List.append_assoc, List.singleton_append, cut, List.map_append]
  rfl

theorem notMem_of_mem_splitAtChar {separator : Char} {piece : String}
    (cut : piece ∈ splitAtChar separator s) : separator ∉ piece.toList := by
  obtain ⟨cs, member, rfl⟩ := List.mem_map.mp cut
  rw [String.toList_ofList]
  intro inside
  simpa using (mem_of_mem_splitOnP member inside).2

end Text

open Text (front behind IsShort)

/-! ## The tokens that are quoted -/

theorem notMem_space_of_isIdentifier {name : String} (identifier : isIdentifier name = true) :
    ' ' ∉ name.toList := by
  intro member
  rw [isIdentifier, Bool.and_eq_true, Bool.and_eq_true, List.all_eq_true] at identifier
  have nameChar := identifier.1.2 ' ' member
  exact absurd nameChar (by decide)

/-- Whether a token has a front that can be a name, and little behind it. -/
def Leads (token : String) : Prop := isIdentifier (front token) = true ∧ IsShort (behind token)

namespace Dialect

variable {dialect : Dialect} {name token rest : String}

theorem quoteToken_append (identifier : isIdentifier name = true) (short : IsShort rest) :
    dialect.quoteToken (name ++ rest) = dialect.quoteIdentifier name ++ rest := by
  have spaceless := notMem_space_of_isIdentifier identifier
  have spaced (tail : String) : isIdentifier (name ++ (" " ++ tail)) = false := by
    rw [← Bool.not_eq_true]
    intro whole
    exact notMem_space_of_isIdentifier whole (by simp)
  have space : " " = String.singleton ' ' := rfl
  cases short with
  | nothing => simp [quoteToken, identifier]
  | @one w word =>
    have pieces : Text.splitAtChar ' ' (name ++ (" " ++ w)) = [name, w] := by
      rw [← String.append_assoc, space, Text.splitAtChar_append, Text.splitAtChar_of_notMem spaceless,
        Text.splitAtChar_of_notMem word]
      rfl
    simp [quoteToken, spaced, pieces, identifier, String.append_assoc]
  | @two v w first second =>
    have pieces : Text.splitAtChar ' ' (name ++ (" " ++ (v ++ (" " ++ w)))) = [name, v, w] := by
      rw [← String.append_assoc, ← String.append_assoc, ← String.append_assoc, space,
        Text.splitAtChar_append, Text.splitAtChar_append, Text.splitAtChar_of_notMem spaceless,
        Text.splitAtChar_of_notMem first, Text.splitAtChar_of_notMem second]
      rfl
    simp [quoteToken, spaced, pieces, identifier, String.append_assoc]

theorem leads_append (identifier : isIdentifier name = true) (short : IsShort rest) : Leads (name ++ rest) := by
  have spaceless := notMem_space_of_isIdentifier identifier
  rw [Leads, Text.front_append spaceless short.beginsSpaced, Text.behind_append spaceless short.beginsSpaced]
  exact ⟨identifier, short⟩

theorem quoteToken_of_leads (leads : Leads token) :
    dialect.quoteToken token = dialect.quoteIdentifier (front token) ++ behind token := by
  have quoted : dialect.quoteToken (front token ++ behind token) = _ := quoteToken_append leads.1 leads.2
  rwa [Text.front_append_behind] at quoted

theorem quoteToken_of_not_leads (other : ¬Leads token) : dialect.quoteToken token = token := by
  have pieces := Text.intercalate_splitAtChar ' ' token
  have spaceless {piece : String} (cut : piece ∈ Text.splitAtChar ' ' token) : ' ' ∉ piece.toList :=
    Text.notMem_of_mem_splitAtChar cut
  rw [quoteToken]
  split
  · rename_i identifier
    refine absurd ?_ other
    simpa using leads_append identifier .nothing
  · split
    · rename_i name short cut
      rw [cut] at pieces spaceless
      refine if_neg fun identifier => other ?_
      have last : ' ' ∉ short.toList := spaceless (by simp)
      have leads := leads_append identifier (.one last)
      rw [← pieces]
      simpa [String.append_assoc] using leads
    · rename_i name middle short cut
      rw [cut] at pieces spaceless
      refine if_neg fun identifier => other ?_
      have between : ' ' ∉ middle.toList := spaceless (by simp)
      have last : ' ' ∉ short.toList := spaceless (by simp)
      have leads := leads_append identifier (.two between last)
      rw [← pieces]
      simpa [String.append_assoc] using leads
    · rfl

end Dialect

end SqlAssembly
