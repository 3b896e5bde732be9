import DirectoryClient.Text.Split

/-!
# The parts of a text

* `exists_mem_cut`, `not_separates_of_mem_cut`    every character is in a part or stands between
                             two;
* `cut_map`                  the parts of a text whose characters are changed;
* `cut_append_cons`, `cut_intercalate`, `mem_of_mem_intercalate`   the parts of texts with separators
                             between them;
* `cut_append_separator`, `exists_cut_append`     the parts of a text with one more character;
* `length_cut`               there is one part more than characters that separate;
* `takeWhile_append_stop`, `dropWhile_append_stop`   a text whose start satisfies a test.
-/

namespace DirectoryClient.Text

section
variable {p : Char → Bool} {c : Char}

theorem exists_cut_cons (hc : p c = false) (s : List Char) :
    ∃ part parts, cut p s = part :: parts ∧ cut p (c :: s) = (c :: part) :: parts := by
  obtain ⟨part, parts, h⟩ := List.exists_cons_of_ne_nil (cut_ne_nil p s)
  refine ⟨part, parts, h, ?_⟩
  rw [cut, hc, if_neg Bool.false_ne_true, h]

theorem cut_of_forall_not {s : List Char} (h : ∀ c ∈ s, p c = false) : cut p s = [s] := by
  induction s with
  | nil => rfl
  | cons c s ih =>
    obtain ⟨hc, hs⟩ := List.forall_mem_cons.mp h
    rw [cut, hc, if_neg Bool.false_ne_true, ih hs]

theorem cut_map {f : Char → Char} (hf : ∀ c, p (f c) = p c) (s : List Char) :
    cut p (s.map f) = (cut p s).map (List.map f) := by
  induction s with
  | nil => rfl
  | cons c s ih =>
    rw [List.map_cons]
    cases hc : p c with
    | true => rw [cut, cut, hf, hc, if_pos rfl, if_pos rfl, ih]; rfl
    | false =>
      obtain ⟨part, parts, hs, hcons⟩ := exists_cut_cons hc s
      rw [hcons, cut, hf, hc, if_neg Bool.false_ne_true, ih, hs]
      rfl

/-- What does not separate is in one of the parts. -/
theorem exists_mem_cut {s : List Char} (hs : c ∈ s) (hc : p c = false) :
    ∃ part ∈ cut p s, c ∈ part := by
  induction s with
  | nil => cases hs
  | cons d s ih =>
    cases hd : p d with
    | true =>
      have hmem : c ∈ s := (List.mem_cons.mp hs).resolve_left fun he => by
        rw [he, hd] at hc
        cases hc
      obtain ⟨part, hpart, hin⟩ := ih hmem
      rw [cut, hd, if_pos rfl]
      exact ⟨part, List.mem_cons_of_mem _ hpart, hin⟩
    | false =>
      obtain ⟨first, parts, he, hcons⟩ := exists_cut_cons hd s
      rw [hcons]
      rcases List.mem_cons.mp hs with rfl | hmem
      · exact ⟨_, List.mem_cons_self, List.mem_cons_self⟩
      · obtain ⟨part, hpart, hin⟩ := ih hmem
        rw [he] at hpart
        rcases List.mem_cons.mp hpart with rfl | hpart
        · exact ⟨_, List.mem_cons_self, List.mem_cons_of_mem _ hin⟩
        · exact ⟨part, List.mem_cons_of_mem _ hpart, hin⟩

/-- Nothing in a part separates. -/
theorem not_separates_of_mem_cut {s part : List Char} (h : part ∈ cut p s) :
    ∀ c ∈ part, p c = false := by
  induction s generalizing part with
  | nil =>
    obtain rfl := List.mem_singleton.mp h
    exact List.forall_mem_nil _
  | cons d s ih =>
    cases hd : p d with
    | true =>
      rw [cut, hd, if_pos rfl] at h
      rcases List.mem_cons.mp h with rfl | h
      · exact List.forall_mem_nil _
      · exact ih h
    | false =>
      obtain ⟨first, parts, he, hcons⟩ := exists_cut_cons hd s
      rw [he] at ih
      rw [hcons] at h
      rcases List.mem_cons.mp h with rfl | h
      · exact List.forall_mem_cons.mpr ⟨hd, ih List.mem_cons_self⟩
      · exact ih (List.mem_cons_of_mem _ h)

theorem cut_append_cons (hc : p c = true) (s t : List Char) :
    cut p (s ++ c :: t) = cut p s ++ cut p t := by
  induction s with
  | nil => simp [cut, hc]
  | cons d s ih =>
    rw [List.cons_append]
    cases hd : p d with
    | true => rw [cut, cut, hd, if_pos rfl, if_pos rfl, ih]; rfl
    | false =>
      obtain ⟨part, parts, he, hcons⟩ := exists_cut_cons hd s
      rw [hcons, cut, hd, if_neg Bool.false_ne_true, ih, he]
      rfl

theorem cut_append_separator (hc : p c = true) (s : List Char) :
    cut p (s ++ [c]) = cut p s ++ [[]] := cut_append_cons hc s []

/-- Every text that was put together is cut by itself. -/
theorem cut_intercalate (hc : p c = true) (s : List Char) (l : List (List Char)) :
    cut p ([c].intercalate (s :: l)) = cut p s ++ l.flatMap (cut p) := by
  induction l generalizing s with
  | nil => rw [List.intercalate_singleton, List.flatMap_nil, List.append_nil]
  | cons t l ih =>
    rw [List.intercalate_cons_cons, List.append_assoc, List.singleton_append,
      cut_append_cons hc, ih, List.flatMap_cons]

theorem length_cut (p : Char → Bool) (s : List Char) : (cut p s).length = s.countP p + 1 := by
  induction s with
  | nil => rfl
  | cons c s ih =>
    cases hc : p c with
    | true => rw [cut, hc, if_pos rfl, List.length_cons, ih, List.countP_cons_of_pos hc]
    | false =>
      obtain ⟨part, parts, hs, hcons⟩ := exists_cut_cons hc s
      rw [hs] at ih
      rw [hcons, List.countP_cons_of_neg (Bool.eq_false_iff.mp hc), ← ih]
      rfl

/-- What is in a text that was put together is in a part or in the separator. -/
theorem mem_of_mem_intercalate {sep : List Char} {l : List (List Char)} {c : Char}
    (h : c ∈ sep.intercalate l) : c ∈ sep ∨ ∃ part ∈ l, c ∈ part := by
  induction l with
  | nil => cases h
  | cons part l ih =>
    cases l with
    | nil =>
      rw [List.intercalate_singleton] at h
      exact .inr ⟨part, List.mem_cons_self, h⟩
    | cons part' l =>
      rw [List.intercalate_cons_cons] at h
      rcases List.mem_append.mp h with h | h
      · rcases List.mem_append.mp h with h | h
        · exact .inr ⟨part, List.mem_cons_self, h⟩
        · exact .inl h
      · rcases ih h with h | ⟨part, hpart, h⟩
        · exact .inl h
        · exact .inr ⟨part, List.mem_cons_of_mem _ hpart, h⟩

/-- What does not separate joins the last part. -/
theorem exists_cut_append (hc : p c = false) (s : List Char) :
    ∃ parts part, cut p (s ++ [c]) = parts ++ [part ++ [c]] := by
  induction s with
  | nil => exact ⟨[], [], by simp [cut, hc]⟩
  | cons d s ih =>
    obtain ⟨parts, part, h⟩ := ih
    rw [List.cons_append]
    cases hd : p d with
    | true =>
      refine ⟨[] :: parts, part, ?_⟩
      rw [cut, hd, if_pos rfl, h]
      rfl
    | false =>
      cases parts with
      | nil => exact ⟨[], d :: part, by rw [cut, hd, if_neg Bool.false_ne_true, h]; rfl⟩
      | cons first parts =>
        exact ⟨(d :: first) :: parts, part, by rw [cut, hd, if_neg Bool.false_ne_true, h]; rfl⟩

end

/-! ## The start of a text -/

section
variable {p : Char → Bool} {s rest : List Char} (hs : ∀ c ∈ s, p c = true)
  (hrest : ∀ c ∈ rest.head?, p c = false)
include hs hrest

/-- What is taken from a text ends where the test fails. -/
theorem takeWhile_append_stop : (s ++ rest).takeWhile p = s := by
  rw [List.takeWhile_append_of_pos hs]
  cases rest with
  | nil => exact List.append_nil s
  | cons c rest =>
    rw [List.takeWhile_cons, hrest c rfl]
    exact List.append_nil s

theorem dropWhile_append_stop : (s ++ rest).dropWhile p = rest := by
  rw [List.dropWhile_append_of_pos hs]
  cases rest with
  | nil => rfl
  | cons c rest =>
    rw [List.dropWhile_cons, hrest c rfl]
    rfl

end

end DirectoryClient.Text
