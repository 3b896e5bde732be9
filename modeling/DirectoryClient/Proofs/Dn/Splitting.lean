import DirectoryClient.Dn.Reading

/-!
# Cutting written names

* `Sealed`                          a text in which every separator is escaped and every escape is
                                    complete;
* `sealed_iff`                      a text is sealed exactly if it is cut into itself;
* `splitUnescaped_append`           cutting goes on behind a sealed text as if nothing were before it;
* `splitUnescaped_intercalate`      sealed texts that are put together with a separator are cut apart
                                    again;
* `parts_of_sealed`, `parts_cons`   the parts of a sealed text, and of one in front of others.
-/

namespace DirectoryClient

/-- No part of the text is cut off, and it ends in no backslash that escapes nothing. -/
inductive Sealed (separator : Char → Bool) : List Char → Prop
  | nil : Sealed separator []
  | escaped (c : Char) {s : List Char} (h : Sealed separator s) : Sealed separator ('\\' :: c :: s)
  | plain {c : Char} {s : List Char} (hb : c ≠ '\\') (hc : separator c = false)
      (h : Sealed separator s) : Sealed separator (c :: s)

variable {separator : Char → Bool}

namespace Sealed

theorem append {s t : List Char} (hs : Sealed separator s) (ht : Sealed separator t) :
    Sealed separator (s ++ t) := by
  induction hs with
  | nil => exact ht
  | escaped c _ ih => exact .escaped c ih
  | plain hb hc _ ih => exact .plain hb hc ih

theorem of_forall {s : List Char} (h : ∀ c ∈ s, c ≠ '\\' ∧ separator c = false) :
    Sealed separator s := by
  induction s with
  | nil => exact .nil
  | cons c s ih =>
    obtain ⟨⟨hb, hc⟩, hs⟩ := List.forall_mem_cons.mp h
    exact .plain hb hc (ih hs)

theorem intercalate {c : Char} (hb : c ≠ '\\') (hc : separator c = false)
    {parts : List (List Char)} (h : ∀ p ∈ parts, Sealed separator p) :
    Sealed separator ([c].intercalate parts) := by
  induction parts with
  | nil => exact .nil
  | cons p parts ih =>
    obtain ⟨hp, hparts⟩ := List.forall_mem_cons.mp h
    cases parts with
    | nil => rwa [List.intercalate_singleton]
    | cons q parts =>
      rw [List.intercalate_cons_cons]
      exact (hp.append (.plain hb hc .nil)).append (ih hparts)

end Sealed

/-! ## Cutting sealed texts -/

theorem splitUnescaped_plain {c : Char} (hb : c ≠ '\\') (hc : separator c = false)
    (s : List Char) :
    splitUnescaped separator (c :: s) =
      (splitUnescaped separator s).map (prependToFirst [c]) := by
  simp [splitUnescaped, hb, hc]

theorem splitUnescaped_separator {c : Char} (hb : c ≠ '\\') (hc : separator c = true)
    (s : List Char) :
    splitUnescaped separator (c :: s) = (splitUnescaped separator s).map ([] :: ·) := by
  simp [splitUnescaped, hb, hc]

theorem prependToFirst_append (s t : List Char) {ps : List (List Char)} :
    prependToFirst s (prependToFirst t ps) = prependToFirst (s ++ t) ps := by
  cases ps with
  | nil => rfl
  | cons p ps => exact congrArg (· :: ps) (List.append_assoc s t p).symm

theorem prependToFirst_nil {ps : List (List Char)} (h : ps ≠ []) : prependToFirst [] ps = ps := by
  cases ps with
  | nil => exact absurd rfl h
  | cons p ps => rfl

/-- Cutting goes on behind a sealed text as if nothing were before it. -/
theorem splitUnescaped_append {s : List Char} (hs : Sealed separator s) (t : List Char) :
    splitUnescaped separator (s ++ t) =
      (splitUnescaped separator t).map (prependToFirst s) := by
  induction hs with
  | nil =>
    cases ht : splitUnescaped separator t with
    | none => rw [List.nil_append, ht]; rfl
    | some ps =>
      rw [List.nil_append, ht, Option.map_some,
        prependToFirst_nil (splitUnescaped_ne_nil separator t ps ht)]
  | escaped c _ ih =>
    rw [List.cons_append, List.cons_append, splitUnescaped, ih, Option.map_map]
    exact congrArg (Option.map · _) (funext fun ps => prependToFirst_append ['\\', c] _)
  | @plain c s hb hc _ ih =>
    rw [List.cons_append, splitUnescaped_plain hb hc, ih, Option.map_map]
    exact congrArg (Option.map · _) (funext fun ps => prependToFirst_append [c] _)

theorem splitUnescaped_of_sealed {s : List Char} (hs : Sealed separator s) :
    splitUnescaped separator s = some [s] := by
  have h := splitUnescaped_append hs []
  rw [List.append_nil] at h
  simp [h, splitUnescaped, prependToFirst]

theorem exists_of_prependToFirst {cs p : List Char} {ps : List (List Char)} (hps : ps ≠ [])
    (h : prependToFirst cs ps = [p]) : ∃ q, ps = [q] := by
  cases ps with
  | nil => exact absurd rfl hps
  | cons q ps => exact ⟨q, congrArg (q :: ·) (List.cons.inj h).2⟩

theorem ne_backslash {c : Char} {s : List Char} (hnil : c = '\\' → s = [] → False)
    (hcons : ∀ d t, c = '\\' → s = d :: t → False) : c ≠ '\\' := by
  intro hc
  cases s with
  | nil => exact hnil hc rfl
  | cons d t => exact hcons d t hc rfl

theorem sealed_of_splitUnescaped {s p : List Char} (h : splitUnescaped separator s = some [p]) :
    Sealed separator s := by
  fun_induction splitUnescaped separator s generalizing p with
  | case1 => exact .nil
  | case2 => cases h
  | case3 c s ih =>
    obtain ⟨ps, hps, he⟩ := Option.map_eq_some_iff.mp h
    obtain ⟨q, rfl⟩ := exists_of_prependToFirst (splitUnescaped_ne_nil separator s ps hps) he
    exact .escaped c (ih hps)
  | case4 c s _ _ hsep ih =>
    obtain ⟨ps, hps, he⟩ := Option.map_eq_some_iff.mp h
    exact absurd (List.cons.inj he).2 (splitUnescaped_ne_nil separator s ps hps)
  | case5 c s hnil hcons hsep ih =>
    obtain ⟨ps, hps, he⟩ := Option.map_eq_some_iff.mp h
    obtain ⟨q, rfl⟩ := exists_of_prependToFirst (splitUnescaped_ne_nil separator s ps hps) he
    exact .plain (ne_backslash hnil hcons) (Bool.eq_false_iff.mpr hsep) (ih hps)

/-- Whether a text is sealed is seen when it is cut. -/
theorem sealed_iff {s : List Char} :
    Sealed separator s ↔ splitUnescaped separator s = some [s] :=
  ⟨splitUnescaped_of_sealed, sealed_of_splitUnescaped⟩

instance (s : List Char) : Decidable (Sealed separator s) := decidable_of_iff' _ sealed_iff

/-- Sealed texts that are put together with a separator are cut apart again. -/
theorem splitUnescaped_intercalate {c : Char} (hb : c ≠ '\\') (hc : separator c = true)
    {parts : List (List Char)} (hne : parts ≠ []) (h : ∀ p ∈ parts, Sealed separator p) :
    splitUnescaped separator ([c].intercalate parts) = some parts := by
  induction parts with
  | nil => exact absurd rfl hne
  | cons p parts ih =>
    obtain ⟨hp, hparts⟩ := List.forall_mem_cons.mp h
    cases parts with
    | nil =>
      rw [List.intercalate_singleton]
      exact splitUnescaped_of_sealed hp
    | cons q parts =>
      rw [List.intercalate_cons_cons, List.append_assoc, splitUnescaped_append hp,
        List.singleton_append, splitUnescaped_separator hb hc, ih (List.cons_ne_nil _ _) hparts]
      simp [prependToFirst]

/-- The parts of a text are what was put together, if none of them is blank. -/
theorem parts_intercalate {c : Char} (hb : c ≠ '\\') (hc : separator c = true)
    {ps : List (List Char)} (hne : ps ≠ []) (h : ∀ p ∈ ps, Sealed separator p)
    (hblank : ∀ p ∈ ps, p.all Text.isBlank = false) :
    parts separator ([c].intercalate ps) = .ok ps := by
  have hany : ps.any (·.all Text.isBlank) = false := List.any_eq_false.mpr fun p hp => by
    rw [hblank p hp]
    exact Bool.false_ne_true
  rw [parts, splitUnescaped_intercalate hb hc hne h]
  dsimp only
  rw [hany]
  rfl

/-- A text that is not cut is its only part. -/
theorem parts_of_sealed {s : List Char} (hs : Sealed separator s)
    (hblank : s.all Text.isBlank = false) : parts separator s = .ok [s] := by
  have hany : [s].any (·.all Text.isBlank) = false := by
    rw [List.any_cons, hblank]
    rfl
  unfold parts
  rw [splitUnescaped_of_sealed hs]
  dsimp only
  rw [hany]
  rfl

/-- One more part in front. -/
theorem parts_cons {c : Char} (hb : c ≠ '\\') (hc : separator c = true) {p s : List Char}
    (hp : Sealed separator p) (hblank : p.all Text.isBlank = false) {ps : List (List Char)}
    (h : parts separator s = .ok ps) : parts separator (p ++ c :: s) = .ok (p :: ps) := by
  unfold parts at h ⊢
  cases hcut : splitUnescaped separator s with
  | none =>
    rw [hcut] at h
    cases h
  | some qs =>
    rw [hcut] at h
    dsimp only at h
    split at h
    · cases h
    · next hany =>
      obtain rfl := Except.ok.inj h
      have hall : ((p ++ []) :: qs).any (·.all Text.isBlank) = false := by
        rw [List.append_nil, List.any_cons, hblank, Bool.eq_false_iff.mpr hany]
        rfl
      rw [splitUnescaped_append hp, splitUnescaped_separator hb hc, hcut]
      show (if ((p ++ []) :: qs).any (·.all Text.isBlank) then _ else Except.ok ((p ++ []) :: qs)) = _
      rw [hall, List.append_nil]
      rfl

end DirectoryClient
