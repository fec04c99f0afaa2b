import SqlAssembly.Proofs.Clause.Congruence

/-! # The indicator of SQL text

The indicators in front of a name are read flag by flag, and a comparator behind them.  A
field that is bound has neither the flag of SQL text nor that of an identifier, so the
flag of SQL text can be put in front of it, and then is all that has changed.
-/

namespace SqlAssembly

namespace IndicatedField

/-- Flags only ever join those already there, so one more in front changes nothing else. -/
theorem takeFlags_raw {options flags : FieldOptions} {cs rest : List Char}
    (taken : takeFlags options cs = .ok (flags, rest)) (notRaw : flags.raw = false) :
    options.raw = false ∧
      takeFlags { options with raw := true } cs = .ok ({ flags with raw := true }, rest) := by
  -- a flag of SQL text among `cs` would make `flags` raw, so only the other two are taken
  fun_induction takeFlags options cs with
  | case1 => cases taken
  | case2 options rest' open_ inductionHypothesis =>
    obtain ⟨impossible, _⟩ := inductionHypothesis taken
    cases impossible
  | case3 => cases taken
  | case4 options rest' notNegated inductionHypothesis =>
    obtain ⟨before, again⟩ := inductionHypothesis taken
    exact ⟨before, by simpa [takeFlags, notNegated] using again⟩
  | case5 => cases taken
  | case6 options rest' notIdentity inductionHypothesis =>
    obtain ⟨before, again⟩ := inductionHypothesis taken
    exact ⟨before, by simpa [takeFlags, notIdentity] using again⟩
  | case7 options rest' noRaw noNegated noIdentity =>
    cases taken
    exact ⟨notRaw, by rw [takeFlags] <;> assumption⟩

/-- A comparator is taken whatever the flags are, and leaves them alone. -/
theorem takeComparator_raw {options after : FieldOptions} {cs rest : List Char}
    (taken : takeComparator options cs = .ok (after, rest)) :
    after.raw = options.raw ∧
      takeComparator { options with raw := true } cs = .ok ({ after with raw := true }, rest) := by
  unfold takeComparator at taken ⊢
  split at taken
  · simp only
    split at taken
    · cases taken
    · split at taken
      · cases taken
      · rename_i visible
        cases taken
        rw [if_neg visible]
        exact ⟨rfl, rfl⟩
  · cases taken
    exact ⟨rfl, rfl⟩

/-- The indicator of SQL text in front of a field that is bound adds that option and nothing
else. -/
theorem readChars_raw {cs : List Char} {indicated : IndicatedField}
    (given : readChars cs = .ok indicated) (binds : indicated.options.binds = true) :
    readChars ('"' :: cs) = .ok ⟨indicated.name, { indicated.options with raw := true }⟩ := by
  unfold readChars at given ⊢
  cases flagsTaken : takeFlags FieldOptions.none cs with
  | error fault => simp [flagsTaken, bind, Except.bind] at given
  | ok pair =>
    obtain ⟨flags, rest⟩ := pair
    cases comparatorTaken : takeComparator flags rest with
    | error fault => simp [flagsTaken, comparatorTaken, bind, Except.bind] at given
    | ok pair =>
      obtain ⟨options, name⟩ := pair
      simp only [flagsTaken, comparatorTaken, bind, Except.bind] at given
      split at given
      · cases given
      · rename_i named
        split at given
        · cases given
        · cases given
          obtain ⟨notRaw, notIdentity⟩ : options.raw = false ∧ options.identity = false := by
            simpa [FieldOptions.binds] using binds
          obtain ⟨rawKept, again⟩ := takeComparator_raw comparatorTaken
          obtain ⟨_, flagsAgain⟩ := takeFlags_raw flagsTaken (rawKept ▸ notRaw)
          have flag : takeFlags FieldOptions.none ('"' :: cs) = .ok ({ flags with raw := true }, rest) :=
            flagsAgain
          simp only [flag, again, bind, Except.bind]
          rw [if_neg named, if_neg (by simp [notIdentity])]
          rfl

theorem read_raw {field : String} {indicated : IndicatedField}
    (given : read field = .ok indicated) (binds : indicated.options.binds = true) :
    read ("\"" ++ field) = .ok ⟨indicated.name, { indicated.options with raw := true }⟩ := by
  have chars : ("\"" ++ field).toList = '"' :: field.toList := by simp
  unfold read at given ⊢
  cases charsRead : readChars field.toList with
  | error fault => simp [charsRead] at given
  | ok other =>
    simp only [charsRead] at given
    cases given
    rw [chars, readChars_raw charsRead binds]

end IndicatedField
end SqlAssembly
