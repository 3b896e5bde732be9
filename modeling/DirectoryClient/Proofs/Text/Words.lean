import DirectoryClient.Proofs.Text.Blank

/-!
# Words and the blanks between them

* `forall_head?_intercalate`, `forall_getLast?_intercalate`   how texts that are put together begin
                        and end;
* `IsWord`              a word;
* `Spaced`              a text of words with single spaces between them (`spaced_joined`);
* `outline`             where a text has blanks, and between which of them there is something;
* `Spaced.of_outline`   the outline tells whether a text is spaced.
-/

namespace DirectoryClient.Text

/-! ## Putting texts together -/

section
variable {sep : List Char} {parts : List (List Char)} {P : Char → Prop}

theorem exists_intercalate_cons (sep p : List Char) (parts : List (List Char)) :
    ∃ rest, sep.intercalate (p :: parts) = p ++ rest := by
  cases parts with
  | nil => exact ⟨[], by rw [List.intercalate_singleton, List.append_nil]⟩
  | cons q parts => exact ⟨_, by rw [List.intercalate_cons_cons, List.append_assoc]⟩

theorem intercalate_cons_ne_nil {p : List Char} (hp : p ≠ []) :
    sep.intercalate (p :: parts) ≠ [] := by
  obtain ⟨rest, hrest⟩ := exists_intercalate_cons sep p parts
  rw [hrest]
  exact List.append_ne_nil_of_left_ne_nil hp rest

theorem forall_head?_intercalate (hne : ∀ p ∈ parts, p ≠ [])
    (h : ∀ p ∈ parts, ∀ c ∈ p.head?, P c) : ∀ c ∈ (sep.intercalate parts).head?, P c := by
  cases parts with
  | nil => exact fun c hc => by cases hc
  | cons p parts =>
    obtain ⟨rest, hrest⟩ := exists_intercalate_cons sep p parts
    rw [hrest, List.head?_append_of_ne_nil _ (hne p List.mem_cons_self)]
    exact h p List.mem_cons_self

theorem forall_getLast?_intercalate (hne : ∀ p ∈ parts, p ≠ [])
    (h : ∀ p ∈ parts, ∀ c ∈ p.getLast?, P c) : ∀ c ∈ (sep.intercalate parts).getLast?, P c := by
  induction parts with
  | nil => exact fun c hc => by cases hc
  | cons p parts ih =>
    obtain ⟨hp, hparts⟩ := List.forall_mem_cons.mp h
    cases parts with
    | nil => rwa [List.intercalate_singleton]
    | cons q parts =>
      have hne' := (List.forall_mem_cons.mp hne).2
      rw [List.intercalate_cons_cons, List.getLast?_append_of_ne_nil _
        (intercalate_cons_ne_nil (hne' q List.mem_cons_self))]
      exact ih hne' hparts

end

/-! ## Words -/

structure IsWord (w : List Char) : Prop where
  ne_nil : w ≠ []
  notBlank : ∀ c ∈ w, isBlank c = false

theorem IsWord.cons {c : Char} {w : List Char} (hc : isBlank c = false)
    (hw : ∀ d ∈ w, isBlank d = false) : IsWord (c :: w) :=
  ⟨List.cons_ne_nil c w, List.forall_mem_cons.mpr ⟨hc, hw⟩⟩

theorem words_blank {c : Char} (hc : isBlank c = true) (s : List Char) :
    words (c :: s) = words s := by
  cases s with
  | nil => simp [words, hc]
  | cons d s => rw [words, if_pos hc]

/-- A word in front of a text that begins with a blank, or of none, is the first of its words. -/
theorem words_append {w t : List Char} (hw : IsWord w) (ht : ∀ c ∈ t.head?, isBlank c = true) :
    words (w ++ t) = w :: words t := by
  obtain ⟨hne, hall⟩ := hw
  induction w with
  | nil => exact absurd rfl hne
  | cons c w ih =>
    obtain ⟨hc, hw⟩ := List.forall_mem_cons.mp hall
    cases w with
    | nil =>
      cases t with
      | nil => simp [words, hc]
      | cons b t => simp [words, hc, ht b rfl]
    | cons d w =>
      have hd := hw d List.mem_cons_self
      have hrest := ih (List.cons_ne_nil d w) hw
      simp only [List.cons_append] at hrest ⊢
      rw [words, if_neg (by simp [hc]), if_neg (by simp [hd]), hrest]

theorem ne_nil_of_mem_words (s : List Char) : ∀ w ∈ words s, w ≠ [] := by
  induction s using words.induct with
  | case1 => simp [words]
  | case2 c h => simp [words, h]
  | case3 c h => simp [words, h]
  | case4 c d s h ih => simpa [words, h] using ih
  | case5 c d s h hd ih => simpa [words, h, hd] using ih
  | case6 c d s h hd w ws e ih =>
    rw [e] at ih
    rw [words, if_neg h, if_neg hd, e]
    exact List.forall_mem_cons.mpr ⟨List.cons_ne_nil c w, (List.forall_mem_cons.mp ih).2⟩
  | case7 c d s h hd e ih => simp [words, h, hd, e]

theorem isWord_of_mem_words {s w : List Char} (hw : w ∈ words s) : IsWord w :=
  ⟨ne_nil_of_mem_words s w hw, words_noBlank s w hw⟩

theorem words_intercalate {ws : List (List Char)} (h : ∀ w ∈ ws, IsWord w) :
    words ([' '].intercalate ws) = ws := by
  induction ws with
  | nil => rfl
  | cons w ws ih =>
    obtain ⟨hw, hws⟩ := List.forall_mem_cons.mp h
    cases ws with
    | nil =>
      have hone := words_append hw (t := []) (fun c hc => by cases hc)
      rw [List.append_nil] at hone
      rw [List.intercalate_singleton, hone, words]
    | cons v ws =>
      rw [List.intercalate_cons_cons, List.append_assoc,
        words_append hw (fun c hc => by cases hc; exact isBlank_space), List.singleton_append,
        words_blank isBlank_space, ih hws]

/-- words with single spaces between them -/
def Spaced (s : List Char) : Prop := ∃ ws, (∀ w ∈ ws, IsWord w) ∧ s = [' '].intercalate ws

theorem spaced_words (s : List Char) : Spaced ([' '].intercalate (words s)) :=
  ⟨words s, fun _ hw => isWord_of_mem_words hw, rfl⟩

namespace Spaced

variable {s : List Char} (h : Spaced s)
include h

theorem intercalate_words : [' '].intercalate (words s) = s := by
  obtain ⟨ws, hws, rfl⟩ := h
  rw [words_intercalate hws]

theorem head? : ∀ c ∈ s.head?, isBlank c = false := by
  obtain ⟨ws, hws, rfl⟩ := h
  refine forall_head?_intercalate (fun w hw => (hws w hw).ne_nil) fun w hw c hc => ?_
  exact (hws w hw).notBlank c (List.mem_of_mem_head? hc)

theorem getLast? : ∀ c ∈ s.getLast?, isBlank c = false := by
  obtain ⟨ws, hws, rfl⟩ := h
  refine forall_getLast?_intercalate (fun w hw => (hws w hw).ne_nil) fun w hw c hc => ?_
  exact (hws w hw).notBlank c (List.mem_of_mem_getLast? hc)

end Spaced

/-! ## Outlines -/

/-- an outline with a mark in front, unless there is one already -/
def marked : List (Option Char) → List (Option Char)
  | none :: o => none :: o
  | o => none :: o

/-- the blanks of a text, and a mark for every run of other characters -/
def outline : List Char → List (Option Char)
  | [] => []
  | c :: s => if isBlank c then some c :: outline s else marked (outline s)

theorem marked_marked (o : List (Option Char)) : marked (marked o) = marked o := by
  rcases o with _ | ⟨_ | c, o⟩ <;> rfl

theorem outline_blank {c : Char} (hc : isBlank c = true) (s : List Char) :
    outline (c :: s) = some c :: outline s := by
  rw [outline, if_pos hc]

theorem outline_append {w : List Char} (hw : IsWord w) (t : List Char) :
    outline (w ++ t) = marked (outline t) := by
  obtain ⟨hne, hall⟩ := hw
  induction w with
  | nil => exact absurd rfl hne
  | cons c w ih =>
    obtain ⟨hc, hw⟩ := List.forall_mem_cons.mp hall
    rw [List.cons_append, outline, if_neg (by simp [hc])]
    cases w with
    | nil => rfl
    | cons d w => rw [ih (List.cons_ne_nil d w) hw, marked_marked]

theorem marked_ne_nil (o : List (Option Char)) : marked o ≠ [] := by
  rcases o with _ | ⟨_ | c, o⟩ <;> exact List.cons_ne_nil _ _

theorem marked_ne_some (o : List (Option Char)) (c : Char) (r : List (Option Char)) :
    marked o ≠ some c :: r := by
  rcases o with _ | ⟨_ | d, o⟩ <;> exact nofun

theorem eq_nil_of_outline {s : List Char} (h : outline s = []) : s = [] := by
  cases s with
  | nil => rfl
  | cons c s =>
    rw [outline] at h
    split at h
    · cases h
    · exact absurd h (marked_ne_nil _)

/-- A text whose outline begins with a blank begins with it. -/
theorem exists_of_outline_some {s : List Char} {c : Char} {r : List (Option Char)}
    (h : outline s = some c :: r) : ∃ t, s = c :: t ∧ outline t = r := by
  cases s with
  | nil => cases h
  | cons d s =>
    rw [outline] at h
    split at h
    · obtain ⟨hc, hr⟩ := List.cons.inj h
      exact ⟨s, by rw [Option.some.inj hc], hr⟩
    · exact absurd h (marked_ne_some _ _ _)

/-- A text whose outline begins with a mark begins with a word. -/
theorem exists_of_outline_none {s : List Char} {r : List (Option Char)}
    (h : outline s = none :: r) : ∃ w t, IsWord w ∧ s = w ++ t ∧ outline t = r := by
  induction s generalizing r with
  | nil => cases h
  | cons c s ih =>
    rw [outline] at h
    split at h
    · cases h
    · next hc =>
      have hc : isBlank c = false := Bool.eq_false_iff.mpr hc
      unfold marked at h
      split at h
      · next o hs =>
        obtain ⟨w, t, hw, rfl, ht⟩ := ih hs
        exact ⟨c :: w, t, .cons hc hw.notBlank, rfl, ht.trans (List.cons.inj h).2⟩
      · exact ⟨[c], s, .cons hc (List.forall_mem_nil _), rfl, (List.cons.inj h).2⟩

/-- The outline tells whether a text is spaced. -/
theorem Spaced.of_outline {s t : List Char} (ht : Spaced t) (h : outline s = outline t) :
    Spaced s := by
  obtain ⟨ws, hws, rfl⟩ := ht
  induction ws generalizing s with
  | nil => exact ⟨[], List.forall_mem_nil _, eq_nil_of_outline h⟩
  | cons w ws ih =>
    obtain ⟨hw, hws⟩ := List.forall_mem_cons.mp hws
    cases ws with
    | nil =>
      have hone := outline_append hw []
      rw [List.append_nil] at hone
      rw [List.intercalate_singleton, hone] at h
      obtain ⟨v, r, hv, rfl, hr⟩ := exists_of_outline_none h
      rw [eq_nil_of_outline hr, List.append_nil]
      exact ⟨[v], List.forall_mem_singleton.mpr hv, List.intercalate_singleton.symm⟩
    | cons u ws =>
      rw [List.intercalate_cons_cons, List.append_assoc, outline_append hw, List.singleton_append,
        outline_blank isBlank_space] at h
      obtain ⟨v, r, hv, rfl, hr⟩ := exists_of_outline_none h
      obtain ⟨x, rfl, hx⟩ := exists_of_outline_some hr
      obtain ⟨vs, hvs, rfl⟩ := ih hws hx
      -- something follows the blank, so that the blank stands between two words
      cases vs with
      | nil =>
        have hu := (hws u List.mem_cons_self).ne_nil
        exact absurd (eq_nil_of_outline hx.symm) (intercalate_cons_ne_nil hu)
      | cons u' vs =>
        refine ⟨v :: u' :: vs, List.forall_mem_cons.mpr ⟨hv, hvs⟩, ?_⟩
        rw [List.intercalate_cons_cons, List.append_assoc, List.singleton_append]

end DirectoryClient.Text
