import Mathlib.Data.Finset.Card
import Mathlib.Data.List.Induction
import SqlAssembly.Fields

/-! # Mappings

What setting, erasing and changing values does to a mapping.  A name keeps the place where it was first
set and loses every value but the last, so the order of a mapping and its values come from different ones
of the pairs that were set.

* `Fields.keys_set`, `Fields.get?_set` — the names and values of a mapping in which one more is set.
* `Fields.map` — a function applied to all values.
* `Fields.ofList_map`, `Fields.ofList_of_name` — pairs set in turn.
* `Fields.Holds`, `Fields.holds_ofList` — what pairs leave behind that are set in turn.
-/

namespace SqlAssembly.Fields

variable {α β : Type} {fields : Fields α} {field : String} {value : α}

theorem mem_of_get? (found : fields.get? field = some value) : (field, value) ∈ fields.entries := by
  obtain ⟨entry, first, rfl⟩ := Option.map_eq_some_iff.mp found
  have same : entry.1 = field := by simpa using List.find?_some first
  rw [← same]
  exact List.mem_of_find?_eq_some first

theorem get?_eq_none_iff : fields.get? field = none ↔ field ∉ fields.keys := by
  simp only [get?, keys, Option.map_eq_none_iff, List.find?_eq_none, List.mem_map, beq_iff_eq,
    not_exists, not_and]

/-- A name that is set for the first time comes last. -/
theorem set_of_notMem (new : field ∉ fields.keys) (value : α) :
    fields.set field value = ⟨fields.entries ++ [(field, value)]⟩ := by
  obtain ⟨entries⟩ := fields
  simp only [set, mk.injEq]
  simp only [keys] at new
  induction entries with
  | nil => rfl
  | cons entry rest inductionHypothesis =>
    rw [List.map_cons, List.mem_cons, not_or] at new
    rw [setEntry, if_neg (Ne.symm new.1), inductionHypothesis new.2, List.cons_append]

theorem keys_set (fields : Fields α) (field : String) (value : α) :
    (fields.set field value).keys = if field ∈ fields.keys then fields.keys else fields.keys ++ [field] := by
  split
  · rename_i known
    obtain ⟨entries⟩ := fields
    simp only [keys, set] at known ⊢
    induction entries with
    | nil => cases known
    | cons entry rest inductionHypothesis =>
      rw [setEntry]
      split
      · rfl
      · rename_i other
        rw [List.map_cons, List.mem_cons] at known
        rw [List.map_cons, List.map_cons, inductionHypothesis (known.resolve_left (Ne.symm other))]
  · rename_i new
    simp [set_of_notMem new, keys]

theorem get?_set (fields : Fields α) (field : String) (value : α) (name : String) :
    (fields.set field value).get? name = if name = field then some value else fields.get? name := by
  obtain ⟨entries⟩ := fields
  simp only [get?, set]
  induction entries with
  | nil => by_cases same : name = field <;> simp [setEntry, same, Ne.symm]
  | cons entry rest inductionHypothesis =>
    obtain ⟨key, old⟩ := entry
    rw [setEntry]
    by_cases known : key = field
    · by_cases same : name = field <;> simp [known, same, Ne.symm]
    · by_cases here : key = name
      · have other : ¬name = field := here ▸ known
        simp [here, other]
      · rw [if_neg known, List.find?_cons_of_neg (by simpa using here), inductionHypothesis,
          List.find?_cons_of_neg (by simpa using here)]

/-- Where no name stands twice, every entry is found under its name. -/
theorem get?_of_mem (nodup : fields.keys.Nodup) (member : (field, value) ∈ fields.entries) :
    fields.get? field = some value := by
  cases found : fields.get? field with
  | none => exact absurd (List.mem_map_of_mem member) (get?_eq_none_iff.mp found)
  | some other =>
    have same := List.inj_on_of_nodup_map nodup (mem_of_get? found) member rfl
    cases same
    rfl

/-- Erasing the first of names that are all different leaves the others. -/
theorem erase_cons {entry : String × α} {rest : List (String × α)}
    (other : entry.1 ∉ rest.map Prod.fst) : (mk (entry :: rest)).erase entry.1 = ⟨rest⟩ := by
  have kept : rest.filter (fun e => e.1 != entry.1) = rest := by
    rw [List.filter_eq_self]
    intro e member
    have different : e.1 ≠ entry.1 := fun same => other (same ▸ List.mem_map_of_mem member)
    simpa using different
  simp [erase, kept]

/-! ## Changing values -/

/-- The mapping with its values changed by a function. -/
def map (f : α → β) (fields : Fields α) : Fields β := ⟨fields.entries.map (Prod.map id f)⟩

@[simp] theorem keys_map (f : α → β) (fields : Fields α) : (fields.map f).keys = fields.keys := by
  simp only [keys, map, List.map_map]
  rfl

theorem get?_map (f : α → β) (fields : Fields α) (field : String) :
    (fields.map f).get? field = (fields.get? field).map f := by
  simp only [get?, map, List.find?_map, Option.map_map]
  rfl

theorem set_map (f : α → β) (fields : Fields α) (field : String) (value : α) :
    (fields.set field value).map f = (fields.map f).set field (f value) := by
  obtain ⟨entries⟩ := fields
  simp only [map, set, mk.injEq]
  induction entries with
  | nil => rfl
  | cons entry rest inductionHypothesis =>
    obtain ⟨name, old⟩ := entry
    simp only [List.map_cons, Prod.map_apply, id_eq, setEntry]
    split
    · rfl
    · rw [List.map_cons, inductionHypothesis]
      rfl

/-! ## Setting pairs in turn -/

theorem ofList_append_singleton (pairs : List (String × α)) (pair : String × α) :
    ofList (pairs ++ [pair]) = (ofList pairs).set pair.1 pair.2 := by
  rw [ofList, List.foldl_append]
  rfl

theorem ofList_map (f : α → β) (pairs : List (String × α)) :
    ofList (pairs.map (Prod.map id f)) = (ofList pairs).map f := by
  induction pairs using List.reverseRecOn with
  | nil => rfl
  | append_singleton pairs pair inductionHypothesis =>
    rw [List.map_append, List.map_singleton, ofList_append_singleton, inductionHypothesis,
      ofList_append_singleton, set_map]
    rfl

theorem mem_setEntry {field : String} {value : α} {entries : List (String × α)} {entry : String × α}
    (member : entry ∈ setEntry field value entries) : entry = (field, value) ∨ entry ∈ entries := by
  induction entries with
  | nil => exact .inl (List.mem_singleton.mp member)
  | cons first rest inductionHypothesis =>
    rw [setEntry] at member
    split at member
    · rename_i same
      obtain rfl | later := List.mem_cons.mp member
      · exact .inl (by rw [same])
      · exact .inr (List.mem_cons_of_mem first later)
    · obtain rfl | later := List.mem_cons.mp member
      · exact .inr List.mem_cons_self
      · exact (inductionHypothesis later).imp_right (List.mem_cons_of_mem first)

theorem mem_ofList {pairs : List (String × α)} {entry : String × α}
    (member : entry ∈ (ofList pairs).entries) : entry ∈ pairs := by
  induction pairs using List.reverseRecOn with
  | nil => exact member
  | append_singleton pairs pair inductionHypothesis =>
    rw [ofList_append_singleton] at member
    obtain rfl | earlier := mem_setEntry member
    · exact List.mem_append_right pairs List.mem_cons_self
    · exact List.mem_append_left [pair] (inductionHypothesis earlier)

/-- Of pairs that all have one name the last is left. -/
theorem ofList_of_name (name : String) (values : List α) :
    ofList (values.map (name, ·)) = ⟨values.getLast?.toList.map (name, ·)⟩ := by
  induction values using List.reverseRecOn with
  | nil => rfl
  | append_singleton values value inductionHypothesis =>
    rw [List.map_append, List.map_singleton, ofList_append_singleton, inductionHypothesis,
      List.getLast?_append]
    cases values.getLast? <;> simp [set, setEntry]

/-! ## What pairs leave behind -/

theorem nodup_keys_ofList (pairs : List (String × α)) : (ofList pairs).keys.Nodup := by
  induction pairs using List.reverseRecOn with
  | nil => exact List.nodup_nil
  | append_singleton pairs pair inductionHypothesis =>
    rw [ofList_append_singleton, keys_set]
    split
    · exact inductionHypothesis
    · rename_i new
      rw [← List.concat_eq_append]
      exact inductionHypothesis.concat new

theorem keys_ofList (pairs : List (String × α)) : (ofList pairs).keys = (pairs.map Prod.fst).eraseDups := by
  induction pairs using List.reverseRecOn with
  | nil => rfl
  | append_singleton pairs pair inductionHypothesis =>
    rw [ofList_append_singleton, keys_set, inductionHypothesis, List.map_append, List.eraseDups_append]
    by_cases known : pair.1 ∈ pairs.map Prod.fst <;> simp [known, List.removeAll, List.eraseDups_cons]

theorem get?_ofList (pairs : List (String × α)) (name : String) :
    (ofList pairs).get? name = pairs.reverse.lookup name := by
  induction pairs using List.reverseRecOn with
  | nil => rfl
  | append_singleton pairs pair inductionHypothesis =>
    obtain ⟨key, value⟩ := pair
    rw [ofList_append_singleton, get?_set, inductionHypothesis, List.reverse_append, List.reverse_singleton,
      List.singleton_append, List.lookup_cons]
    by_cases last : name = key
    · rw [if_pos last, beq_iff_eq.mpr last]
    · rw [if_neg last, beq_false_of_ne last]

/-- What is left of pairs that were set one after another: each of their names once, in the order in which
the names first occur, and under each name the value of the last pair with it. -/
structure Holds (pairs : List (String × α)) (fields : Fields α) : Prop where
  nodup : fields.keys.Nodup
  keys : fields.keys = (pairs.map Prod.fst).eraseDups
  get? : ∀ name, fields.get? name = pairs.reverse.lookup name
  entries : fields.entries.map (Prod.map id some) = fields.keys.map fun name => (name, fields.get? name)
  size : fields.size = (pairs.map Prod.fst).toFinset.card

theorem holds_ofList (pairs : List (String × α)) : (ofList pairs).Holds pairs where
  nodup := nodup_keys_ofList pairs
  keys := keys_ofList pairs
  get? := get?_ofList pairs
  entries := by
    have nodup := nodup_keys_ofList pairs
    rw [Fields.keys, List.map_map]
    refine List.map_congr_left fun entry member => ?_
    obtain ⟨name, value⟩ := entry
    simp [get?_of_mem nodup member]
  size := by
    have names : (pairs.map Prod.fst).toFinset = (ofList pairs).keys.toFinset := by
      ext name
      rw [keys_ofList, List.mem_toFinset, List.mem_toFinset, List.mem_eraseDups]
    rw [names, List.toFinset_card_of_nodup (nodup_keys_ofList pairs), Fields.keys, List.length_map]
    rfl

theorem Holds.entries_eq_nil_iff {pairs : List (String × α)} (held : fields.Holds pairs) :
    fields.entries = [] ↔ pairs = [] := by
  have names : fields.entries = [] ↔ fields.keys = [] := List.map_eq_nil_iff.symm
  rw [names, held.keys]
  cases pairs <;> simp [List.eraseDups_cons]

/-- Going through a mapping comes to going through the distinct names of the pairs, with the value of the
last pair for each. -/
theorem Holds.forall₂_entries_iff {pairs : List (String × α)} (held : fields.Holds pairs)
    {r : String → α → β → Prop} {parts : List β} :
    List.Forall₂ (fun entry part => r entry.1 entry.2 part) fields.entries parts ↔
      List.Forall₂ (fun name part => ∃ value, pairs.reverse.lookup name = some value ∧ r name value part)
        (pairs.map Prod.fst).eraseDups parts := by
  let under (entry : String × Option α) (part : β) : Prop := ∃ value, entry.2 = some value ∧ r entry.1 value part
  have listed : fields.entries.map (Prod.map id some) =
      (pairs.map Prod.fst).eraseDups.map fun name => (name, pairs.reverse.lookup name) := by
    rw [held.entries, held.keys]
    simp only [held.get?]
  calc
    _ ↔ List.Forall₂ under (fields.entries.map (Prod.map id some)) parts := by
      simp [List.forall₂_map_left_iff, under]
    _ ↔ _ := by rw [listed, List.forall₂_map_left_iff]

end SqlAssembly.Fields
