import SqlAssembly.Text.Basic

/-! # The case of letters

A small letter and its capital are 32 apart, and no other character has a case.

* `toNat_toUpper`, `toNat_toLower` — the code points of a character in either case.
* `asciiLower_asciiUpper` — texts that are the same in capitals are so in small letters.
-/

namespace SqlAssembly.Text

theorem toNat_toUpper (c : Char) :
    c.toUpper.toNat = if 97 ≤ c.toNat ∧ c.toNat ≤ 122 then c.toNat - 32 else c.toNat := by
  split
  · rename_i small
    have shifted : c.toUpper = ⟨c.val + ('A'.val - 'a'.val), _⟩ := dif_pos small
    -- the difference is negative, so it is a great number in 32 bits
    have offset : ('A'.val - 'a'.val).toNat = 2 ^ 32 - 32 := by decide
    rw [shifted]
    refine (UInt32.toNat_add _ _).trans ?_
    change (c.toNat + ('A'.val - 'a'.val).toNat) % 2 ^ 32 = _
    rw [offset]
    omega
  · rename_i other
    exact congrArg Char.toNat (dif_neg other)

theorem toNat_toLower (c : Char) :
    c.toLower.toNat = if 65 ≤ c.toNat ∧ c.toNat ≤ 90 then c.toNat + 32 else c.toNat := by
  split
  · rename_i capital
    have shifted : c.toLower = ⟨c.val + ('a'.val - 'A'.val), _⟩ := dif_pos capital
    have offset : ('a'.val - 'A'.val).toNat = 32 := by decide
    rw [shifted]
    refine (UInt32.toNat_add _ _).trans ?_
    change (c.toNat + ('a'.val - 'A'.val).toNat) % 2 ^ 32 = _
    rw [offset]
    omega
  · rename_i other
    exact congrArg Char.toNat (dif_neg other)

theorem asciiLower_asciiUpper (s : String) : asciiLower (asciiUpper s) = asciiLower s := by
  have same (c : Char) : c.toUpper.toLower = c.toLower := by
    rw [← Char.toNat_inj, toNat_toLower, toNat_toUpper, toNat_toLower]
    by_cases small : 97 ≤ c.toNat ∧ c.toNat ≤ 122
    · rw [if_pos small, if_pos (by omega), if_neg (by omega)]
      omega
    · rw [if_neg small]
  rw [asciiLower, asciiUpper, String.toList_ofList, List.map_map, asciiLower]
  exact congrArg String.ofList (List.map_congr_left fun c _ => same c)

end SqlAssembly.Text
