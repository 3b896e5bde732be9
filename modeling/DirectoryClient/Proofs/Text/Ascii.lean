import DirectoryClient.Text.Casing
import DirectoryClient.Text.Hex

/-!
# Characters of ASCII

* `forall_ascii`      a fact about every one of them;
* `toNat_lt_of_isAlphanum`, `toNat_lt_of_hexValue`   letters and digits are among them;
* `toLower_cases`     the letters that have a lower case;
* `apply_toLower`     what is the same for both cases of every letter;
* `asciiLower_asciiLower`, `asciiLowered_asciiLowered`   lower case stays as it is;
* `isDigit_of_mem_toString`   numbers are written in digits.
-/

namespace DirectoryClient.Text

@[elab_as_elim]
theorem forall_ascii {P : Char → Prop} {c : Char} (hc : c.toNat < 0x80)
    (h : ∀ n : Fin 0x80, P (Char.ofNat n)) : P c := by
  have hn := h ⟨c.toNat, hc⟩
  rwa [Char.ofNat_toNat] at hn

theorem toNat_lt_of_isAlphanum {c : Char} (h : c.isAlphanum = true) : c.toNat < 0x80 := by
  have hc : ((decide (65 ≤ c.val ∧ c.val ≤ 90) || (decide (97 ≤ c.val) && decide (c.val ≤ 122))) ||
      (decide (48 ≤ c.val) && decide (c.val ≤ 57))) = true := h
  simp only [Bool.or_eq_true, Bool.and_eq_true, decide_eq_true_eq, UInt32.le_iff_toNat_le] at hc
  rcases hc with (h | h) | h <;> exact Nat.lt_of_le_of_lt h.2 (by decide)

theorem toNat_lt_of_hexValue {c : Char} {n : Nat} (h : hexValue c = some n) : c.toNat < 0x80 := by
  simp only [hexValue, Char.le_def, UInt32.le_iff_toNat_le] at h
  split at h
  · next hc => exact Nat.lt_of_le_of_lt hc.2 (by decide)
  · split at h
    · next hc => exact Nat.lt_of_le_of_lt hc.2 (by decide)
    · split at h
      · next hc => exact Nat.lt_of_le_of_lt hc.2 (by decide)
      · cases h

theorem isAlphanum_of_hexValue {c : Char} {n : Nat} (h : hexValue c = some n) :
    c.isAlphanum = true := by
  have hdigit : isHex c = true → c.isAlphanum = true :=
    forall_ascii (toNat_lt_of_hexValue h) (by decide)
  exact hdigit (by rw [isHex, h]; rfl)

/-- A letter is one of the twenty-six that have a lower case, or stays as it is. -/
theorem toLower_cases (c : Char) : c.toLower = c ∨
    ∃ n : Fin 26, c = Char.ofNat (65 + n) ∧ c.toLower = Char.ofNat (97 + n) := by
  by_cases hc : 65 ≤ c.toNat ∧ c.toNat ≤ 90
  · have hletter : ∀ n : Fin 26,
        (Char.ofNat (65 + n)).toLower = Char.ofNat (97 + n) := by decide
    obtain ⟨n, hn⟩ : ∃ n : Fin 26, c = Char.ofNat (65 + n) := by
      refine ⟨⟨c.toNat - 65, by omega⟩, ?_⟩
      rw [show 65 + (c.toNat - 65) = c.toNat by omega, Char.ofNat_toNat]
    exact .inr ⟨n, hn, hn ▸ hletter n⟩
  · exact .inl (dif_neg hc)

theorem apply_toLower {α : Type} {f : Char → α}
    (h : ∀ n : Fin 26, f (Char.ofNat (97 + n)) = f (Char.ofNat (65 + n))) (c : Char) :
    f c.toLower = f c := by
  rcases toLower_cases c with hc | ⟨n, hc, hlower⟩
  · rw [hc]
  · rw [hlower, hc]
    exact h n

theorem asciiLower_asciiLower (s : List Char) : asciiLower (asciiLower s) = asciiLower s := by
  rw [asciiLower, asciiLower, List.map_map]
  apply List.map_congr_left
  intro c _
  exact apply_toLower (by decide) c

theorem asciiLowered_asciiLowered (s : String) : asciiLowered (asciiLowered s) = asciiLowered s := by
  rw [asciiLowered, asciiLowered, String.toList_ofList, asciiLower_asciiLower]

theorem toList_toString (n : Nat) : (toString n).toList = Nat.toDigits 10 n := String.toList_ofList

theorem isDigit_of_mem_toString {n : Nat} {c : Char} (h : c ∈ (toString n).toList) :
    c.isDigit = true := by
  rw [toList_toString] at h
  exact Nat.isDigit_of_mem_toDigits (by decide) (by decide) h

end DirectoryClient.Text
