import Mathlib.Data.List.DropRight
import Mathlib.Data.List.Nodup
import SqlAssembly.Proofs.Fields
import SqlAssembly.Session.Cache

/-! # The order of cached literals

The table of a cache and its queue are changed in step: a literal comes to the end of both, and
the oldest leaves the front of both.  So the queue names the entries of the table, each once, in
the order in which they came.

* `LiteralCache.dropOldest_eq` — what is left when the oldest literals are dropped.
* `LiteralCache.IsSound` — the invariant of a cache.
* `LiteralCache.IsSound.insert` — an insertion keeps it.
-/

namespace SqlAssembly

namespace LiteralCache

/-! ## Dropping the oldest literals -/

/-- The front of a table and of the queue of its names is dropped, until as much is left as there is
room for. -/
theorem dropOldest_eq (capacity : Nat) {entries : List (String × String)}
    (nodup : (entries.map Prod.fst).Nodup) :
    dropOldest capacity ⟨entries⟩ (entries.map Prod.fst) =
      (⟨entries.rtake capacity⟩, (entries.map Prod.fst).rtake capacity) := by
  simp only [List.rtake, List.length_map]
  induction entries with
  | nil => simp [dropOldest]
  | cons entry rest inductionHypothesis =>
    rw [List.map_cons, List.nodup_cons] at nodup
    rw [List.map_cons, dropOldest]
    split
    · rename_i beyond
      have count : (entry :: rest).length - capacity = (rest.length - capacity) + 1 := by
        simp only [Fields.size, List.length_cons] at beyond ⊢
        omega
      rw [Fields.erase_cons nodup.1, inductionHypothesis nodup.2, count, List.drop_succ_cons,
        List.drop_succ_cons]
    · rename_i within
      have count : (entry :: rest).length - capacity = 0 := by
        simp only [Fields.size] at within
        omega
      rw [count, List.drop_zero, List.drop_zero]

/-- What has been dropped before makes no difference to what is left later. -/
theorem rtake_append_singleton (past : List String) (literal : String) (capacity : Nat) :
    (past.rtake capacity ++ [literal]).rtake capacity = (past ++ [literal]).rtake capacity := by
  cases capacity with
  | zero => rw [List.rtake_zero, List.rtake_zero]
  | succ n =>
    rw [List.rtake_concat_succ, List.rtake_concat_succ]
    simp [List.rtake_eq_reverse_take_reverse, List.take_take]

theorem insert_of_not_takes {cache : LiteralCache} {literal : String}
    (refused : cache.takes literal = false) (quoted : String) : cache.insert literal quoted = cache := by
  rw [insert, if_neg (by simp [refused])]

@[simp] theorem capacity_insert (cache : LiteralCache) (literal quoted : String) :
    (cache.insert literal quoted).capacity = cache.capacity := by
  unfold insert
  split <;> rfl

@[simp] theorem maxBytes_insert (cache : LiteralCache) (literal quoted : String) :
    (cache.insert literal quoted).maxBytes = cache.maxBytes := by
  unfold insert
  split <;> rfl

/-! ## The invariant -/

/-- The queue names the entries of the table in order and each once, no entry is beyond the bounds
of the cache, and each literal is held with its quotation. -/
structure IsSound (quotation : String → String) (cache : LiteralCache) : Prop where
  keys : cache.table.keys = cache.queue
  nodup : cache.queue.Nodup
  bounded : cache.queue.length ≤ cache.capacity
  short : ∀ literal ∈ cache.queue, literal.utf8ByteSize ≤ cache.maxBytes
  quoted : ∀ literal quoted, (literal, quoted) ∈ cache.table.entries → quoted = quotation literal

namespace IsSound

variable {quotation : String → String} {cache : LiteralCache} {literal quoted : String}

theorem empty (quotation : String → String) (capacity maxBytes : Nat) :
    (LiteralCache.empty capacity maxBytes).IsSound quotation := by
  constructor <;> simp [LiteralCache.empty, Fields.empty, Fields.keys]

/-- The queue lists exactly the literals that are held. -/
theorem mem_queue_iff (sound : cache.IsSound quotation) :
    literal ∈ cache.queue ↔ (cache.get? literal).isSome = true := by
  rw [← sound.keys, ← not_iff_not, ← Fields.get?_eq_none_iff, Bool.not_eq_true,
    Option.isSome_eq_false_iff, Option.isNone_iff_eq_none]
  rfl

theorem eq_of_get? (sound : cache.IsSound quotation) (held : cache.get? literal = some quoted) :
    quoted = quotation literal :=
  sound.quoted literal quoted (Fields.mem_of_get? held)

theorem length_entries (sound : cache.IsSound quotation) :
    cache.table.entries.length = cache.queue.length := by
  rw [← sound.keys, Fields.keys, List.length_map]

theorem size_le (sound : cache.IsSound quotation) : cache.size ≤ cache.capacity := by
  rw [size, Fields.size, sound.length_entries]
  exact sound.bounded

theorem notMem_of_takes (sound : cache.IsSound quotation) (takes : cache.takes literal = true) :
    literal ∉ cache.queue := by
  rw [sound.mem_queue_iff]
  simp_all [LiteralCache.takes]

theorem nodup_append (sound : cache.IsSound quotation) (takes : cache.takes literal = true) :
    (cache.queue ++ [literal]).Nodup := by
  rw [List.nodup_append]
  refine ⟨sound.nodup, List.nodup_singleton literal, fun other held last member => ?_⟩
  rw [List.mem_singleton.mp member]
  rintro rfl
  exact sound.notMem_of_takes takes held

/-- A literal that is put in comes last, and the oldest give way to it. -/
theorem insert_of_takes (sound : cache.IsSound quotation) (takes : cache.takes literal = true)
    (quoted : String) :
    cache.insert literal quoted =
      { cache with
        table := ⟨(cache.table.entries ++ [(literal, quoted)]).rtake cache.capacity⟩
        queue := (cache.queue ++ [literal]).rtake cache.capacity } := by
  have new := sound.notMem_of_takes takes
  have names : cache.queue ++ [literal] =
      (cache.table.entries ++ [(literal, quoted)]).map Prod.fst := by
    rw [List.map_append, ← sound.keys, Fields.keys]
    rfl
  have dropped := dropOldest_eq cache.capacity (names ▸ sound.nodup_append takes)
  rw [insert, if_pos takes, Fields.set_of_notMem (by rwa [sound.keys]), names, dropped]

theorem insert (sound : cache.IsSound quotation) (literal : String) :
    (cache.insert literal (quotation literal)).IsSound quotation := by
  cases takes : cache.takes literal with
  | false => rwa [insert_of_not_takes takes]
  | true =>
    rw [sound.insert_of_takes takes]
    constructor
    case keys =>
      simp [Fields.keys, List.rtake, List.map_drop, ← sound.keys]
    case nodup => exact (sound.nodup_append takes).sublist (List.drop_sublist _ _)
    case bounded =>
      simp only [List.rtake, List.length_drop, List.length_append, List.length_singleton]
      omega
    case short =>
      intro other member
      have fits : literal.utf8ByteSize ≤ cache.maxBytes := by
        simp_all [LiteralCache.takes, accepts]
      rcases List.mem_append.mp (List.mem_of_mem_drop member) with held | last
      · exact sound.short other held
      · rwa [List.mem_singleton.mp last]
    case quoted =>
      intro other quoted member
      rcases List.mem_append.mp (List.mem_of_mem_drop member) with held | last
      · exact sound.quoted other quoted held
      · cases List.mem_singleton.mp last
        rfl

end IsSound

end LiteralCache

end SqlAssembly
