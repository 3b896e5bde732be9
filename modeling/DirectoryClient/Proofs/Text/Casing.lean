import DirectoryClient.Proofs.Text.Ascii
import DirectoryClient.Proofs.Text.Words
import DirectoryClient.Text.Casing

/-!
# Lower case is lower case of itself

* `Lowering`             what is expected of lower case: it changes nothing the second time, and
                         leaves every blank where it is;
* `lowerRuns_avoid`      no run leads into a run (`lower?_lower?`);
* `Settled`              a character in lower case (`settled_of_mem_lowerChar`);
* `lowering_lowercase`   full lower case is as expected.
-/

namespace DirectoryClient.Text

/-- Lower case changes nothing the second time.  It neither adds nor removes blanks, and no word
between them goes away. -/
structure Lowering (lower : List Char → List Char) : Prop where
  idem : ∀ s, lower (lower s) = lower s
  outline : ∀ s, outline (lower s) = outline s

/-! ## Runs -/

/-- No run touches a blank. -/
theorem lowerRuns_notBlank : ∀ r ∈ lowerRuns, ∀ b ∈ blankRanges,
    (r.last < b.1 ∨ b.2 < r.first) ∧ (r.lower + (r.last - r.first) < b.1 ∨ b.2 < r.lower) := by
  decide +kernel

/-- Only one run leads to ASCII, and none to the dotted capital I or to a number that is no
character. -/
theorem lowerRuns_lower : ∀ r ∈ lowerRuns,
    (0x80 ≤ r.lower ∨ r.lower = 0x6B ∧ r.first = r.last) ∧
      (r.lower + (r.last - r.first) < 0x130 ∨ 0x130 < r.lower) ∧
      (r.lower + (r.last - r.first) < 0xD800 ∨
        0xDFFF < r.lower ∧ r.lower + (r.last - r.first) < 0x110000) := by
  decide +kernel

/-- The capital sigma is in a run, although it is read without it. -/
theorem lowerRuns_sigma : ∃ r ∈ lowerRuns, (r.lower? capitalSigma.toNat).isSome = true := by
  decide

/-- whether the lower-case letters of a run lie outside of another one, or between its letters -/
def CaseRun.avoids (r r' : CaseRun) : Bool :=
  Nat.blt (r.lower + (r.last - r.first)) r'.first || (Nat.blt r'.last r.lower ||
    (Nat.beq r.first r.last || Nat.beq r.step 2) && Nat.beq r'.step 2 &&
      Nat.beq ((r.lower + r'.first) % 2) 1)

/-- No run leads into a run. -/
theorem lowerRuns_avoid : (lowerRuns.all fun r => lowerRuns.all r.avoids) = true := by
  decide +kernel

theorem lower?_eq_some {r : CaseRun} {n m : Nat} (h : r.lower? n = some m) :
    r.first ≤ n ∧ n ≤ r.last ∧ (n - r.first) % r.step = 0 ∧ m = r.lower + (n - r.first) := by
  unfold CaseRun.lower? at h
  split at h
  · next hn => exact ⟨hn.1, hn.2.1, hn.2.2, (Option.some.inj h).symm⟩
  · cases h

theorem lower?_of_avoids {r r' : CaseRun} (h : r.avoids r' = true) {n m : Nat}
    (hm : r.lower? n = some m) : r'.lower? m = none := by
  obtain ⟨hfirst, hlast, hstep, rfl⟩ := lower?_eq_some hm
  simp only [CaseRun.avoids, Bool.or_eq_true, Bool.and_eq_true, Nat.blt_eq, Nat.beq_eq] at h
  unfold CaseRun.lower?
  refine if_neg fun ⟨h1, h2, h3⟩ => ?_
  rcases h with h | h | ⟨⟨h, h'⟩, h''⟩
  · omega
  · omega
  · rw [h'] at h3
    rcases h with h | h
    · omega
    · rw [h] at hstep
      omega

/-- A lower-case letter has no lower case of its own. -/
theorem lower?_lower? {r r' : CaseRun} (hr : r ∈ lowerRuns) (hr' : r' ∈ lowerRuns) {n m : Nat}
    (h : r.lower? n = some m) : r'.lower? m = none :=
  lower?_of_avoids (List.all_eq_true.mp (List.all_eq_true.mp lowerRuns_avoid r hr) r' hr') h

/-! ## Characters -/

/-- A character that is its own lower case, wherever it stands. -/
structure Settled (c : Char) : Prop where
  ne_sigma : c ≠ capitalSigma
  lowerChar : lowerChar c = [c]

theorem isBlank_iff {c : Char} :
    isBlank c = true ↔ ∃ b ∈ blankRanges, b.1 ≤ c.toNat ∧ c.toNat ≤ b.2 := by
  simp [isBlank, inRanges]

theorem settled_toLower {c : Char} (h : c.toNat < 0x80) : Settled c.toLower := by
  have hc : c.toLower ≠ capitalSigma ∧ lowerChar c.toLower = [c.toLower] :=
    forall_ascii h (by decide)
  exact ⟨hc.1, hc.2⟩

theorem isBlank_toLower (c : Char) : isBlank c.toLower = isBlank c :=
  apply_toLower (by decide) c

theorem toLower_of_isBlank {c : Char} (hb : isBlank c = true) : c.toLower = c := by
  have hletter : ∀ n : Fin 26, isBlank (Char.ofNat (65 + n)) = false := by decide
  rcases toLower_cases c with h | ⟨n, rfl, -⟩
  · exact h
  · rw [hletter n] at hb
    cases hb

theorem settled_i : Settled 'i' := ⟨by decide, by decide⟩

theorem settled_k : Settled 'k' := ⟨by decide, by decide⟩

theorem settled_dotAbove : Settled (Char.ofNat 0x307) := ⟨by decide, by decide⟩

theorem settled_smallSigma : Settled smallSigma := ⟨by decide, by decide⟩

theorem settled_finalSigma : Settled finalSigma := ⟨by decide, by decide⟩

theorem toNat_ofNat_of_lower? {r : CaseRun} (hr : r ∈ lowerRuns) {n m : Nat}
    (h : r.lower? n = some m) : (Char.ofNat m).toNat = m := by
  obtain ⟨hfirst, hlast, -, rfl⟩ := lower?_eq_some h
  have hvalid : (r.lower + (n - r.first)).isValidChar := by
    rcases (lowerRuns_lower r hr).2.2 with h | ⟨h, h'⟩
    · exact .inl (by omega)
    · exact .inr ⟨by omega, by omega⟩
  rw [Char.ofNat, dif_pos hvalid]
  rfl

/-- Neither a letter of a run nor its lower case is a blank. -/
theorem isBlank_of_lower? {r : CaseRun} (hr : r ∈ lowerRuns) {c : Char} {m : Nat}
    (h : r.lower? c.toNat = some m) : isBlank c = false ∧ isBlank (Char.ofNat m) = false := by
  have hm := toNat_ofNat_of_lower? hr h
  obtain ⟨hfirst, hlast, -, rfl⟩ := lower?_eq_some h
  constructor <;> refine Bool.eq_false_iff.mpr fun hb => ?_ <;>
    obtain ⟨b, hb, hlow, hhigh⟩ := isBlank_iff.mp hb
  · have := (lowerRuns_notBlank r hr b hb).1
    omega
  · rw [hm] at hlow hhigh
    have := (lowerRuns_notBlank r hr b hb).2
    omega

/-- A letter of a run leads to a settled one. -/
theorem settled_of_lower? {r : CaseRun} (hr : r ∈ lowerRuns) {n m : Nat}
    (h : r.lower? n = some m) : Settled (Char.ofNat m) := by
  have hnone : ∀ r' ∈ lowerRuns, r'.lower? m = none := fun r' hr' => lower?_lower? hr hr' h
  have hm := toNat_ofNat_of_lower? hr h
  obtain ⟨hfirst, hlast, -, he⟩ := lower?_eq_some h
  obtain ⟨hascii, hdotted, -⟩ := lowerRuns_lower r hr
  rcases hascii with hascii | ⟨hk, hone⟩
  · refine ⟨?_, ?_⟩
    · intro hs
      obtain ⟨r', hr', hsigma⟩ := lowerRuns_sigma
      rw [← hs, hm, hnone r' hr'] at hsigma
      cases hsigma
    · unfold lowerChar
      rw [hm, if_neg (by omega), if_neg (by omega),
        List.findSome?_eq_none_iff.mpr hnone]
  · obtain rfl : m = 0x6B := by omega
    exact settled_k

/-- The four ways in which a character gets its lower case. -/
theorem lowerChar_cases (c : Char) :
    (c.toNat < 0x80 ∧ lowerChar c = [c.toLower]) ∨
      (c.toNat = 0x130 ∧ lowerChar c = ['i', Char.ofNat 0x307]) ∨
      (∃ r ∈ lowerRuns, ∃ m, r.lower? c.toNat = some m ∧ lowerChar c = [Char.ofNat m]) ∨
      lowerChar c = [c] := by
  unfold lowerChar
  by_cases h1 : c.toNat < 0x80
  · exact .inl ⟨h1, if_pos h1⟩
  rw [if_neg h1]
  by_cases h2 : c.toNat = 0x130
  · exact .inr (.inl ⟨h2, if_pos h2⟩)
  rw [if_neg h2]
  cases hf : lowerRuns.findSome? (·.lower? c.toNat) with
  | none => exact .inr (.inr (.inr rfl))
  | some m =>
    obtain ⟨r, hr, hm⟩ := List.exists_of_findSome?_eq_some hf
    exact .inr (.inr (.inl ⟨r, hr, m, hm, rfl⟩))

theorem settled_of_mem_lowerChar {c d : Char} (hc : c ≠ capitalSigma) (hd : d ∈ lowerChar c) :
    Settled d := by
  rcases lowerChar_cases c with ⟨h, he⟩ | ⟨-, he⟩ | ⟨r, hr, m, hm, he⟩ | he
  · rw [he] at hd
    obtain rfl := List.mem_singleton.mp hd
    exact settled_toLower h
  · rw [he] at hd
    rcases List.mem_pair.mp hd with rfl | rfl
    · exact settled_i
    · exact settled_dotAbove
  · rw [he] at hd
    obtain rfl := List.mem_singleton.mp hd
    exact settled_of_lower? hr hm
  · rw [he] at hd
    obtain rfl := List.mem_singleton.mp hd
    exact ⟨hc, he⟩

theorem lowerChar_of_isBlank {c : Char} (hb : isBlank c = true) : lowerChar c = [c] := by
  rcases lowerChar_cases c with ⟨-, he⟩ | ⟨h, -⟩ | ⟨r, hr, m, hm, -⟩ | he
  · rw [he, toLower_of_isBlank hb]
  · rw [isBlank, h] at hb
    exact absurd hb (by decide)
  · rw [(isBlank_of_lower? hr hm).1] at hb
    cases hb
  · exact he

theorem isWord_lowerChar {c : Char} (hb : isBlank c = false) : IsWord (lowerChar c) := by
  rcases lowerChar_cases c with ⟨-, he⟩ | ⟨-, he⟩ | ⟨r, hr, m, hm, he⟩ | he <;> rw [he]
  · exact .cons ((isBlank_toLower c).trans hb) (List.forall_mem_nil _)
  · exact .cons (by decide) (List.forall_mem_singleton.mpr (by decide))
  · exact .cons (isBlank_of_lower? hr hm).2 (List.forall_mem_nil _)
  · exact .cons hb (List.forall_mem_nil _)

/-! ## Texts -/

/-- The lower case of a capital sigma is one of the small ones. -/
theorem sigma_cases (before s : List Char) :
    (if startsCased before && !startsCased s then finalSigma else smallSigma) = finalSigma ∨
      (if startsCased before && !startsCased s then finalSigma else smallSigma) = smallSigma := by
  split
  · exact .inl rfl
  · exact .inr rfl

theorem settled_of_mem_lowercaseFrom (before s : List Char) :
    ∀ d ∈ lowercaseFrom before s, Settled d := by
  induction s generalizing before with
  | nil => exact List.forall_mem_nil _
  | cons c s ih =>
    rw [lowercaseFrom]
    refine List.forall_mem_append.mpr ⟨fun d hd => ?_, ih (c :: before)⟩
    by_cases hc : c = capitalSigma
    · rw [if_pos hc] at hd
      obtain rfl := List.mem_singleton.mp hd
      rcases sigma_cases before s with h | h <;> rw [h]
      · exact settled_finalSigma
      · exact settled_smallSigma
    · rw [if_neg hc] at hd
      exact settled_of_mem_lowerChar hc hd

theorem lowercaseFrom_of_settled {s : List Char} (h : ∀ c ∈ s, Settled c) (before : List Char) :
    lowercaseFrom before s = s := by
  induction s generalizing before with
  | nil => rfl
  | cons c s ih =>
    obtain ⟨hc, hs⟩ := List.forall_mem_cons.mp h
    rw [lowercaseFrom, if_neg hc.ne_sigma, hc.lowerChar, ih hs]
    rfl

theorem outline_lowercaseFrom (before s : List Char) :
    outline (lowercaseFrom before s) = outline s := by
  induction s generalizing before with
  | nil => rfl
  | cons c s ih =>
    rw [lowercaseFrom]
    by_cases hc : c = capitalSigma
    · have hb : isBlank c = false := by rw [hc]; decide
      have hw : ∀ d, d = finalSigma ∨ d = smallSigma → IsWord [d] := by
        rintro d (rfl | rfl) <;> exact .cons (by decide) (List.forall_mem_nil _)
      rw [if_pos hc, outline_append (hw _ (sigma_cases before s)), ih, outline,
        if_neg (by simp [hb])]
    · rw [if_neg hc]
      cases hb : isBlank c with
      | true => rw [lowerChar_of_isBlank hb, List.singleton_append, outline_blank hb, ih,
          outline_blank hb]
      | false => rw [outline_append (isWord_lowerChar hb), ih, outline, if_neg (by simp [hb])]

/-- **Full lower case is as expected.** -/
theorem lowering_lowercase : Lowering lowercase where
  idem s := lowercaseFrom_of_settled (settled_of_mem_lowercaseFrom [] s) []
  outline s := outline_lowercaseFrom [] s

end DirectoryClient.Text
