import Mathlib.Data.List.DropRight
import SqlAssembly.Text.Blank

/-! # Words and the blanks around them

Blanks at the ends of a text make no difference to what is left of it after trimming, nor do they make
one to its words; and however long the blanks between two words are, the words are the same two.

* `mem_of_mem_splitOnP` — what the parts of a list hold that is cut at some of its elements.
* `trim_surrounded` — a text with blanks around it, trimmed.
* `IsWord`, `words_pair` — texts of one word, and a text of two.
-/

namespace SqlAssembly.Text

/-- The parts that a list is cut into hold its elements, and none at which it is cut. -/
theorem mem_of_mem_splitOnP {α : Type} {p : α → Bool} {xs part : List α} {x : α}
    (cut : part ∈ xs.splitOnP p) (member : x ∈ part) : x ∈ xs ∧ p x = false := by
  induction xs generalizing part with
  | nil =>
    rw [List.splitOnP_nil, List.mem_singleton] at cut
    rw [cut] at member
    cases member
  | cons y ys inductionHypothesis =>
    obtain ⟨first, others, parts⟩ := List.exists_cons_of_ne_nil (List.splitOnP_ne_nil p ys)
    have behind {part : List α} (present : part ∈ first :: others) (inside : x ∈ part) :
        x ∈ y :: ys ∧ p x = false := by
      obtain ⟨later, kept⟩ := inductionHypothesis (parts ▸ present) inside
      exact ⟨List.mem_cons_of_mem y later, kept⟩
    rw [List.splitOnP_cons_eq_if_modifyHead, parts] at cut
    -- a divider opens an empty part, and any other element joins the first one
    split at cut
    · rcases List.mem_cons.mp cut with rfl | later
      · cases member
      · exact behind later member
    · rename_i kept
      rcases List.mem_cons.mp cut with rfl | later
      · rcases List.mem_cons.mp member with rfl | inside
        · exact ⟨List.mem_cons_self, by simpa using kept⟩
        · exact behind List.mem_cons_self inside
      · exact behind (List.mem_cons_of_mem first later) member

variable {s v w before between after : String}

theorem forall_mem_intercalate {P : Char → Prop} {separator : String} {texts : List String}
    (apart : ∀ c ∈ separator.toList, P c) (each : ∀ t ∈ texts, ∀ c ∈ t.toList, P c) :
    ∀ c ∈ (separator.intercalate texts).toList, P c := by
  induction texts with
  | nil => simp
  | cons first rest inductionHypothesis =>
    obtain ⟨now, later⟩ := List.forall_mem_cons.mp each
    cases rest with
    | nil => simpa using now
    | cons next rest =>
      rw [String.intercalate_cons_cons, String.toList_append, String.toList_append]
      simp only [List.forall_mem_append]
      exact ⟨⟨now, apart⟩, inductionHypothesis later⟩

/-! ## Trimming -/

theorem trimChars_eq_rdropWhile (cs : List Char) :
    trimChars cs = (cs.dropWhile isBlankChar).rdropWhile isBlankChar := rfl

theorem trimChars_blanks_append {front cs : List Char} (blank : ∀ c ∈ front, isBlankChar c = true) :
    trimChars (front ++ cs) = trimChars cs := by
  rw [trimChars, List.dropWhile_append_of_pos blank, trimChars]

theorem trimChars_append_blanks {cs rear : List Char} (blank : ∀ c ∈ rear, isBlankChar c = true) :
    trimChars (cs ++ rear) = trimChars cs := by
  have dropped (kept : List Char) : (kept ++ rear).rdropWhile isBlankChar = kept.rdropWhile isBlankChar := by
    have reversed : ∀ c ∈ rear.reverse, isBlankChar c = true := fun c member =>
      blank c (List.mem_reverse.mp member)
    rw [List.rdropWhile, List.reverse_append, List.dropWhile_append_of_pos reversed, List.rdropWhile]
  rw [trimChars_eq_rdropWhile, trimChars_eq_rdropWhile, List.dropWhile_append]
  split
  · rename_i nothing
    rw [List.isEmpty_iff.mp nothing, List.dropWhile_eq_nil_iff.mpr blank]
  · exact dropped _

/-- Blanks around a text are trimmed away. -/
theorem trim_surrounded (front : isBlank before = true) (rear : isBlank after = true) :
    trim (before ++ s ++ after) = trim s := by
  rw [isBlank, List.all_eq_true] at front rear
  rw [trim, String.toList_append, String.toList_append, trimChars_append_blanks rear,
    trimChars_blanks_append front, trim]

/-- A text is what is left of it after trimming, with blanks around that. -/
theorem exists_surrounding (s : String) :
    ∃ before after, isBlank before = true ∧ isBlank after = true ∧ s = before ++ trim s ++ after := by
  let kept := s.toList.dropWhile isBlankChar
  refine ⟨.ofList (s.toList.takeWhile isBlankChar), .ofList (kept.rtakeWhile isBlankChar), ?_, ?_, ?_⟩
  · rw [isBlank, String.toList_ofList, List.all_eq_true]
    exact fun c member => List.mem_takeWhile_imp member
  · rw [isBlank, String.toList_ofList, List.all_eq_true]
    exact fun c member => List.mem_rtakeWhile_imp member
  · apply String.toList_injective
    rw [trim, trimChars_eq_rdropWhile, ← String.ofList_append, ← String.ofList_append, String.toList_ofList,
      List.append_assoc, List.rdropWhile_append_rtakeWhile, List.takeWhile_append_dropWhile]

theorem trim_trim (s : String) : trim (trim s) = trim s := by
  obtain ⟨before, after, front, rear, whole⟩ := exists_surrounding s
  have same : trim (before ++ trim s ++ after) = trim (trim s) := trim_surrounded front rear
  rw [← same, ← whole]

/-! ## Words -/

/-- A text is one word if there is something of it and nothing of that is blank. -/
structure IsWord (w : String) : Prop where
  nonempty : w ≠ ""
  visible : ∀ c ∈ w.toList, isBlankChar c = false

theorem trimChars_eq_self {cs : List Char} (first : ∀ c ∈ cs.head?, isBlankChar c = false)
    (last : ∀ c ∈ cs.getLast?, isBlankChar c = false) : trimChars cs = cs := by
  have front : cs.dropWhile isBlankChar = cs := by
    cases cs with
    | nil => rfl
    | cons c cs => rw [List.dropWhile_cons_of_neg (by simp [first c rfl])]
  rw [trimChars_eq_rdropWhile, front, List.rdropWhile_eq_self_iff]
  intro nonempty
  simp [last _ (List.getLast?_eq_some_getLast nonempty)]

/-- What begins and ends with a word is trimmed already. -/
theorem trim_between (first : IsWord v) (second : IsWord w) : trim (v ++ s ++ w) = v ++ s ++ w := by
  have begun : v.toList ≠ [] := fun nothing => first.nonempty (String.toList_eq_nil_iff.mp nothing)
  have ended : w.toList ≠ [] := fun nothing => second.nonempty (String.toList_eq_nil_iff.mp nothing)
  have trimmed : trimChars (v ++ s ++ w).toList = (v ++ s ++ w).toList := by
    apply trimChars_eq_self
    · intro c found
      rw [String.toList_append, String.toList_append, List.append_assoc,
        List.head?_append_of_ne_nil _ begun] at found
      exact first.visible c (List.mem_of_mem_head? found)
    · intro c found
      rw [String.toList_append, List.getLast?_append_of_ne_nil _ ended] at found
      exact second.visible c (List.mem_of_mem_getLast? found)
  rw [trim, trimmed, String.ofList_toList]

theorem trim_word (word : IsWord w) : trim w = w := by
  have trimmed : trimChars w.toList = w.toList :=
    trimChars_eq_self (fun c found => word.visible c (List.mem_of_mem_head? found))
      (fun c found => word.visible c (List.mem_of_mem_getLast? found))
  rw [trim, trimmed, String.ofList_toList]

theorem isWord_of_mem_words (cut : w ∈ words s) : IsWord w := by
  obtain ⟨cs, present, rfl⟩ := List.mem_map.mp cut
  obtain ⟨part, nonempty⟩ := List.mem_filter.mp present
  refine ⟨?_, fun c member => ?_⟩
  · simpa using nonempty
  · rw [String.toList_ofList] at member
    exact (mem_of_mem_splitOnP part member).2

theorem words_word (word : IsWord w) : words w = [w] := by
  have nonempty : w.toList ≠ [] := fun nothing => word.nonempty (String.toList_eq_nil_iff.mp nothing)
  rw [words, List.splitOnP_eq_singleton word.visible]
  simp [nonempty]

/-- A blank ends the words in front of it. -/
theorem words_append_blank {c : Char} (blank : isBlankChar c = true) (s t : String) :
    words (s ++ String.singleton c ++ t) = words s ++ words t := by
  rw [words, String.toList_append, String.toList_append, String.toList_singleton, List.append_assoc,
    List.singleton_append, List.splitOnP_append_cons _ _ blank, List.filter_append, List.map_append]
  rfl

theorem words_blanks_append (blank : isBlank before = true) : words (before ++ s) = words s := by
  obtain ⟨cs, rfl⟩ : ∃ cs, before = String.ofList cs := ⟨before.toList, String.ofList_toList.symm⟩
  rw [isBlank, String.toList_ofList, List.all_eq_true] at blank
  induction cs with
  | nil => simp
  | cons c cs inductionHypothesis =>
    obtain ⟨now, later⟩ := List.forall_mem_cons.mp blank
    have cut := words_append_blank now "" (.ofList cs ++ s)
    have none : words "" = [] := by simp [words]
    rw [none, List.nil_append, String.empty_append] at cut
    rw [String.ofList_cons, String.append_assoc, cut, inductionHypothesis later]

/-- However many blanks stand between two words, the text has these two. -/
theorem words_pair (first : IsWord v) (second : IsWord w) (nonempty : between ≠ "")
    (blank : isBlank between = true) : words (v ++ between ++ w) = [v, w] := by
  obtain ⟨c, cs, chars⟩ :=
    List.exists_cons_of_ne_nil fun nothing => nonempty (String.toList_eq_nil_iff.mp nothing)
  rw [isBlank, chars, List.all_cons, Bool.and_eq_true] at blank
  have shape : between = String.singleton c ++ .ofList cs := by
    rw [← String.ofList_cons, ← chars, String.ofList_toList]
  have rest : words (.ofList cs ++ w) = [w] := by
    rw [words_blanks_append (by rw [isBlank, String.toList_ofList]; exact blank.2), words_word second]
  rw [shape, ← String.append_assoc, String.append_assoc, words_append_blank blank.1, words_word first, rest]
  rfl

end SqlAssembly.Text
