import SqlAssembly.Identifier
import SqlAssembly.Proofs.Text.Marks

/-! # Reading identifiers

A database reads an identifier item by item: a star, or the text between two quotes, where a quote
written twice stands for one and a single quote ends the item.  Items are separated by dots.  Read
like this, a quoted name ends where its last segment does, whatever the name holds, and gives the
segments of the name again.

* `readQuoted`, `readItem`, `readItems` — the reader.
* `readItem_quoteSegment`, `readItems_quoteSegment` — what it makes of quoted segments.
* `Dialect.readIdentifier_quoteIdentifier` — what it makes of a quoted name.
-/

namespace SqlAssembly

/-! ## The reader -/

/-- The text up to the closing quote and what follows the quote; without a closing quote there is
no item. -/
def readQuoted (q : Char) : List Char → Option (List Char × List Char)
  | [] => none
  | [c] => if c = q then some ([], []) else none
  | c :: d :: cs =>
    if c = q then
      if d = q then (readQuoted q cs).map (Prod.map (q :: ·) id) else some ([], d :: cs)
    else (readQuoted q (d :: cs)).map (Prod.map (c :: ·) id)

/-- The first item and what follows it. -/
def readItem (q : Char) : List Char → Option (List Char × List Char)
  | [] => none
  | c :: cs =>
    if c = q then readQuoted q cs
    else if c = '*' then some (['*'], cs)
    else none

theorem length_of_readQuoted {q : Char} {cs item rest : List Char}
    (read : readQuoted q cs = some (item, rest)) : rest.length < cs.length := by
  induction cs using readQuoted.induct q generalizing item rest with
  | case1 => cases read
  | case2 =>
    rw [readQuoted, if_pos rfl] at read
    cases read
    exact Nat.zero_lt_one
  | case3 c other =>
    rw [readQuoted, if_neg other] at read
    cases read
  | case4 cs inductionHypothesis =>
    rw [readQuoted, if_pos rfl, if_pos rfl, Option.map_eq_some_iff] at read
    obtain ⟨_, inner, same⟩ := read
    cases same
    exact Nat.lt_add_right 1 (Nat.lt_succ_of_lt (inductionHypothesis inner))
  | case5 d cs other =>
    rw [readQuoted, if_pos rfl, if_neg other] at read
    cases read
    exact Nat.lt_succ_self _
  | case6 c d cs other inductionHypothesis =>
    rw [readQuoted, if_neg other, Option.map_eq_some_iff] at read
    obtain ⟨_, inner, same⟩ := read
    cases same
    exact Nat.lt_succ_of_lt (inductionHypothesis inner)

theorem length_of_readItem {q : Char} {cs item rest : List Char}
    (read : readItem q cs = some (item, rest)) : rest.length < cs.length := by
  cases cs with
  | nil => cases read
  | cons c cs =>
    rw [readItem] at read
    split at read
    · exact Nat.lt_succ_of_lt (length_of_readQuoted read)
    · split at read <;> cases read
      exact Nat.lt_succ_self _

/-- The items between dots and what follows the last one.  A dot must have an item behind it. -/
def readItems (q : Char) (cs : List Char) : Option (List (List Char) × List Char) :=
  match _ : readItem q cs with
  | some (item, '.' :: rest) => (readItems q rest).map (Prod.map (item :: ·) id)
  | some (item, rest) => some ([item], rest)
  | none => none
termination_by cs.length
decreasing_by
  rename_i read
  exact Nat.lt_of_succ_lt (length_of_readItem read)

/-! ## Quoted segments -/

section

variable {q c : Char} {cs item rest : List Char}

theorem readQuoted_of_ne (other : c ≠ q) :
    readQuoted q (c :: cs) = (readQuoted q cs).map (Prod.map (c :: ·) id) := by
  cases cs with
  | nil => exact if_neg other
  | cons d cs => rw [readQuoted, if_neg other]

theorem readQuoted_pair :
    readQuoted q (q :: q :: cs) = (readQuoted q cs).map (Prod.map (q :: ·) id) := by
  rw [readQuoted, if_pos rfl, if_pos rfl]

/-- A quote with another character behind it ends the item. -/
theorem readQuoted_close (single : rest.head? ≠ some q) : readQuoted q (q :: rest) = some ([], rest) := by
  cases rest with
  | nil => rw [readQuoted, if_pos rfl]
  | cons d rest =>
    have other : d ≠ q := fun same => single (congrArg some same)
    rw [readQuoted, if_pos rfl, if_neg other]

/-- Text whose quotes are doubled is read as a whole: the reader never takes half of a pair for the
closing quote. -/
theorem readQuoted_doubled (single : rest.head? ≠ some q) (cs : List Char) :
    readQuoted q ((cs.flatMap fun c => if c == q then [q, q] else [c]) ++ q :: rest) =
      some (cs, rest) := by
  induction cs with
  | nil => exact readQuoted_close single
  | cons c cs inductionHypothesis =>
    rw [List.flatMap_cons, List.append_assoc]
    by_cases same : c = q
    · subst same
      rw [if_pos (beq_self_eq_true c), List.cons_append, List.cons_append, List.nil_append,
        readQuoted_pair, inductionHypothesis]
      rfl
    · rw [if_neg (by simpa using same), List.singleton_append, readQuoted_of_ne same,
        inductionHypothesis]
      rfl

theorem readItems_last (read : readItem q cs = some (item, rest)) (last : rest.head? ≠ some '.') :
    readItems q cs = some ([item], rest) := by
  rw [readItems]
  split
  case h_1 found =>
    cases read.symm.trans found
    exact absurd rfl last
  case h_2 found =>
    cases read.symm.trans found
    rfl
  case h_3 found => cases read.symm.trans found

theorem readItems_dot (read : readItem q cs = some (item, '.' :: rest)) :
    readItems q cs = (readItems q rest).map (Prod.map (item :: ·) id) := by
  rw [readItems]
  split
  case h_1 found =>
    cases read.symm.trans found
    rfl
  case h_2 dotted found =>
    cases read.symm.trans found
    exact absurd rfl (dotted _)
  case h_3 found => cases read.symm.trans found

end

namespace Dialect

variable {dialect : Dialect}

/-- Text behind an identifier that is not read as part of it. -/
def EndsIdentifier (dialect : Dialect) (rest : List Char) : Prop :=
  rest.head? ≠ some dialect.identifierQuote ∧ rest.head? ≠ some '.'

theorem identifierQuote_ne_star (dialect : Dialect) : '*' ≠ dialect.identifierQuote := by
  cases dialect <;> decide

theorem identifierQuote_ne_dot (dialect : Dialect) : '.' ≠ dialect.identifierQuote := by
  cases dialect <;> decide

theorem readItem_quoteSegment {rest : List Char} (single : rest.head? ≠ some dialect.identifierQuote)
    (segment : String) :
    readItem dialect.identifierQuote ((dialect.quoteSegment segment).toList ++ rest) =
      some (segment.toList, rest) := by
  unfold quoteSegment
  split
  · rename_i all
    subst all
    have star : "*".toList ++ rest = '*' :: rest := rfl
    rw [star, readItem, if_neg dialect.identifierQuote_ne_star, if_pos rfl]
    rfl
  · have chars : (String.singleton dialect.identifierQuote ++
        Text.doubleChar dialect.identifierQuote segment ++
        String.singleton dialect.identifierQuote).toList ++ rest =
        dialect.identifierQuote :: ((segment.toList.flatMap fun c =>
          if c == dialect.identifierQuote then [dialect.identifierQuote, dialect.identifierQuote]
          else [c]) ++ dialect.identifierQuote :: rest) := by
      simp [Text.doubleChar]
    rw [chars, readItem, if_pos rfl, readQuoted_doubled single]

/-- Segments between dots are read one by one; the dot behind an item is no quote, so each of them
ends where it was meant to. -/
theorem readItems_quoteSegment {rest : List Char} (ends : dialect.EndsIdentifier rest)
    {segments : List String} (nonempty : segments ≠ []) :
    readItems dialect.identifierQuote
        ((".".intercalate (segments.map dialect.quoteSegment)).toList ++ rest) =
      some (segments.map String.toList, rest) := by
  induction segments with
  | nil => exact absurd rfl nonempty
  | cons segment segments inductionHypothesis =>
    cases segments with
    | nil =>
      rw [List.map_singleton, String.intercalate_singleton]
      exact readItems_last (readItem_quoteSegment ends.1 segment) ends.2
    | cons next segments =>
      have separated : (".".intercalate ((segment :: next :: segments).map dialect.quoteSegment)).toList ++ rest =
          (dialect.quoteSegment segment).toList ++
            '.' :: ((".".intercalate ((next :: segments).map dialect.quoteSegment)).toList ++ rest) := by
        simp
      have dot : ('.' :: ((".".intercalate ((next :: segments).map dialect.quoteSegment)).toList ++
          rest)).head? ≠ some dialect.identifierQuote :=
        fun same => dialect.identifierQuote_ne_dot (Option.some.inj same)
      rw [separated, readItems_dot (readItem_quoteSegment dot segment),
        inductionHypothesis (List.cons_ne_nil next segments)]
      rfl

/-! ## Quoted names -/

/-- The segments of the identifier at the front of a text and the text behind it. -/
def readIdentifier (dialect : Dialect) (text : String) : Option (List String × String) :=
  (readItems dialect.identifierQuote text.toList).map
    (Prod.map (List.map String.ofList) String.ofList)

theorem readIdentifier_append {name rest : String} (quoted : dialect = .sqlite → '.' ∉ name.toList)
    (ends : dialect.EndsIdentifier rest.toList) :
    dialect.readIdentifier (dialect.quoteIdentifier name ++ rest) =
      some (Text.splitAtChar '.' name, rest) := by
  have whole : dialect.quoteIdentifier name =
      ".".intercalate ((Text.splitAtChar '.' name).map dialect.quoteSegment) := by
    unfold quoteIdentifier
    refine if_neg fun bare => ?_
    rw [Bool.and_eq_true, List.contains_iff_mem] at bare
    cases dialect with
    | sqlite => exact quoted rfl bare.1
    | generic | mysql | mysqlAnsi => exact absurd bare.2 (by decide)
  have nonempty : Text.splitAtChar '.' name ≠ [] := by
    simp [Text.splitAtChar, List.splitOnP_ne_nil]
  rw [readIdentifier, whole, String.toList_append, readItems_quoteSegment ends nonempty]
  simp

/-- A quoted name with nothing behind it is read as a whole. -/
theorem readIdentifier_whole {name : String} (quoted : dialect = .sqlite → '.' ∉ name.toList) :
    dialect.readIdentifier (dialect.quoteIdentifier name) = some (Text.splitAtChar '.' name, "") := by
  have ends : dialect.EndsIdentifier "".toList := by simp [EndsIdentifier]
  simpa using readIdentifier_append quoted ends

end Dialect

/-- **Identifiers are read as they were meant.**  Where segments are quoted one by one, or the name has
none to separate, a quoted name is read as a whole: what follows it stays, and the segments with dots
between them are the name.  So no two names are quoted alike. -/
theorem Dialect.readIdentifier_quoteIdentifier {dialect : Dialect} {name : String}
    (quoted : dialect = .sqlite → '.' ∉ name.toList) :
    (∃ segments, dialect.readIdentifier (dialect.quoteIdentifier name) = some (segments, "") ∧
        ".".intercalate segments = name ∧
        ∀ rest, dialect.EndsIdentifier rest.toList →
          dialect.readIdentifier (dialect.quoteIdentifier name ++ rest) = some (segments, rest)) ∧
      ∀ other, (dialect = .sqlite → '.' ∉ other.toList) →
        dialect.quoteIdentifier other = dialect.quoteIdentifier name → other = name := by
  have read {name : String} (quoted : dialect = .sqlite → '.' ∉ name.toList) :
      dialect.readIdentifier (dialect.quoteIdentifier name) =
        some (Text.splitAtChar '.' name, "") := by
    have ends : dialect.EndsIdentifier "".toList := ⟨nofun, nofun⟩
    simpa using readIdentifier_append quoted ends
  have joined (name : String) : ".".intercalate (Text.splitAtChar '.' name) = name :=
    Text.intercalate_splitAtChar '.' name
  refine ⟨⟨_, read quoted, joined name, fun rest ends => readIdentifier_append quoted ends⟩, ?_⟩
  intro other otherQuoted same
  have segments : Text.splitAtChar '.' other = Text.splitAtChar '.' name := by
    have both := (read otherQuoted).symm.trans (same ▸ read quoted)
    exact congrArg Prod.fst (Option.some.inj both)
  rw [← joined other, segments, joined name]

/-- Quotes beside dots, a star, an empty segment and a segment that is nothing but a quote; and a star
with a quote behind it, which is no star. -/
theorem Dialect.readIdentifier_quoteIdentifier_quotes :
    let name := "a\".*..\".\"b"
    let text := "\"a\"\"\".*.\"\".\"\"\"\".\"\"\"b\""
    Dialect.generic.quoteIdentifier name = text ∧
      (∃ segments, Dialect.generic.readIdentifier (text ++ " = 1") = some (segments, " = 1") ∧
        ".".intercalate segments = name) ∧
      Dialect.sqlite.quoteIdentifier "*\"" ≠ Dialect.sqlite.quoteIdentifier "*" := by
  intro name text
  have written : Dialect.generic.quoteIdentifier name = text := by decide +kernel
  have dotted : Dialect.generic = .sqlite → '.' ∉ name.toList := nofun
  have star : Dialect.sqlite = .sqlite → '.' ∉ "*".toList := by decide
  obtain ⟨⟨segments, -, joined, goesOn⟩, -⟩ := Dialect.readIdentifier_quoteIdentifier dotted
  obtain ⟨-, injective⟩ := Dialect.readIdentifier_quoteIdentifier star
  refine ⟨written, ⟨segments, ?_, joined⟩, fun same => ?_⟩
  · rw [← written]
    exact goesOn " = 1" ⟨by decide, by decide⟩
  · exact absurd (injective "*\"" (by decide) same) (by decide)

end SqlAssembly
