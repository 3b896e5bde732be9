import DirectoryClient.Proofs.Text.Casing

/-!
# What lower case depends on

* `lowerChar_toLower`         what is the same for both cases of an ASCII letter;
* `lowercase_of_asciiLower`   the case of ASCII letters does not matter;
* `lowercase_blanks_append`   nor do blanks in front;
* `exists_lowercase_append`   the last character keeps its place.
-/

namespace DirectoryClient.Text

/-! ## Letters -/

theorem ignorableRanges_notLetter : ∀ r ∈ ignorableRanges,
    (r.2 < 65 ∨ 90 < r.1) ∧ (r.2 < 97 ∨ 122 < r.1) := by decide +kernel

theorem isIgnorable_toLower (c : Char) : isIgnorable c.toLower = isIgnorable c := by
  have hnone : ∀ m, (65 ≤ m ∧ m ≤ 90) ∨ (97 ≤ m ∧ m ≤ 122) → inRanges ignorableRanges m = false := by
    intro m hm
    refine List.any_eq_false.mpr fun r hr hin => ?_
    have hapart := ignorableRanges_notLetter r hr
    simp only [Bool.and_eq_true, decide_eq_true_eq] at hin
    omega
  have hnumber : ∀ n : Fin 26, (Char.ofNat (65 + n)).toNat = 65 + n ∧
      (Char.ofNat (97 + n)).toNat = 97 + n := by decide
  refine apply_toLower (fun n => ?_) c
  rw [isIgnorable, isIgnorable, (hnumber n).1, (hnumber n).2, hnone _ (by omega),
    hnone _ (by omega)]

theorem isCased_toLower (c : Char) : isCased c.toLower = isCased c :=
  apply_toLower (by decide) c

theorem lowerChar_toLower (c : Char) : lowerChar c.toLower = lowerChar c :=
  apply_toLower (by decide) c

theorem toLower_eq_capitalSigma_iff (c : Char) : (c.toLower = capitalSigma) = (c = capitalSigma) :=
  apply_toLower (f := (· = capitalSigma)) (fun n => propext (by decide +revert)) c

theorem startsCased_asciiLower (s : List Char) : startsCased (asciiLower s) = startsCased s := by
  have hp : isIgnorable ∘ Char.toLower = isIgnorable := funext isIgnorable_toLower
  unfold startsCased asciiLower
  rw [List.dropWhile_map, hp]
  cases s.dropWhile isIgnorable with
  | nil => rfl
  | cons c _ => exact isCased_toLower c

theorem lowercaseFrom_asciiLower (before s : List Char) :
    lowercaseFrom (asciiLower before) (asciiLower s) = lowercaseFrom before s := by
  induction s generalizing before with
  | nil => rfl
  | cons c s ih =>
    have hrest := ih (c :: before)
    have hs : asciiLower (c :: s) = c.toLower :: asciiLower s := rfl
    rw [hs, lowercaseFrom, lowercaseFrom, startsCased_asciiLower, startsCased_asciiLower,
      lowerChar_toLower, ← hrest]
    simp only [toLower_eq_capitalSigma_iff]
    rfl

theorem lowercase_of_asciiLower {s t : List Char} (h : asciiLower s = asciiLower t) :
    lowercase s = lowercase t := by
  calc lowercase s
    _ = lowercaseFrom (asciiLower []) (asciiLower s) := (lowercaseFrom_asciiLower [] s).symm
    _ = lowercaseFrom (asciiLower []) (asciiLower t) := by rw [h]
    _ = lowercase t := lowercaseFrom_asciiLower [] t

/-! ## Blanks -/

theorem casedRanges_notBlank : ∀ r ∈ casedRanges, ∀ b ∈ blankRanges, r.2 < b.1 ∨ b.2 < r.1 := by
  decide +kernel

theorem isCased_of_isBlank {c : Char} (h : isBlank c = true) : isCased c = false := by
  refine Bool.eq_false_iff.mpr fun hc => ?_
  obtain ⟨b, hb, hlow, hhigh⟩ := isBlank_iff.mp h
  obtain ⟨r, hr, hin⟩ := List.any_eq_true.mp hc
  simp only [Bool.and_eq_true, decide_eq_true_eq] at hin
  have hapart := casedRanges_notBlank r hr b hb
  omega

section
variable {blanks : List Char} (h : ∀ c ∈ blanks, isBlank c = true)
include h

theorem startsCased_blanks : startsCased blanks = false := by
  unfold startsCased
  split
  · next c rest he =>
    refine isCased_of_isBlank (h c ?_)
    exact (List.dropWhile_sublist isIgnorable).subset (he ▸ List.mem_cons_self)
  · rfl

theorem startsCased_append_blanks (s : List Char) : startsCased (s ++ blanks) = startsCased s := by
  have hnone := startsCased_blanks h
  unfold startsCased at hnone ⊢
  rw [List.dropWhile_append]
  cases s.dropWhile isIgnorable with
  | nil => exact hnone
  | cons c rest => rfl

theorem lowercaseFrom_append_blanks (before s : List Char) :
    lowercaseFrom (before ++ blanks) s = lowercaseFrom before s := by
  induction s generalizing before with
  | nil => rfl
  | cons c s ih =>
    rw [lowercaseFrom, lowercaseFrom, startsCased_append_blanks h, ← List.cons_append, ih]

/-- Blanks stay as they are, and no letter looks at those in front of it. -/
theorem lowercase_blanks_append (s : List Char) : lowercase (blanks ++ s) = blanks ++ lowercase s := by
  have hstep : ∀ before, lowercaseFrom before (blanks ++ s) =
      blanks ++ lowercaseFrom (blanks.reverse ++ before) s := by
    induction blanks with
    | nil => exact fun _ => rfl
    | cons c blanks ih =>
      intro before
      obtain ⟨hc, hblanks⟩ := List.forall_mem_cons.mp h
      have hsigma : c ≠ capitalSigma := by
        rintro rfl
        exact absurd hc (by decide)
      rw [List.cons_append, lowercaseFrom, if_neg hsigma, lowerChar_of_isBlank hc, ih hblanks]
      simp
  have hreverse : ∀ c ∈ blanks.reverse, isBlank c = true :=
    fun c hc => h c (List.mem_reverse.mp hc)
  rw [lowercase, hstep [], List.append_nil]
  exact congrArg _ (lowercaseFrom_append_blanks hreverse [] s)

end

theorem exists_lowercase_append {c : Char} (hc : c ≠ capitalSigma) (s : List Char) :
    ∃ front, lowercase (s ++ [c]) = front ++ lowerChar c := by
  have hstep : ∀ before, ∃ front, lowercaseFrom before (s ++ [c]) = front ++ lowerChar c := by
    induction s with
    | nil =>
      intro before
      refine ⟨[], ?_⟩
      rw [List.nil_append, lowercaseFrom, if_neg hc]
      exact List.append_nil _
    | cons d s ih =>
      intro before
      obtain ⟨front, hfront⟩ := ih (d :: before)
      rw [List.cons_append, lowercaseFrom, hfront, ← List.append_assoc]
      exact ⟨_, rfl⟩
  exact hstep []

end DirectoryClient.Text
