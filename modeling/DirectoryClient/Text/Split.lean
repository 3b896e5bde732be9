/-!
# Cutting a text at a character or a word

* `cut`           the parts between the characters that satisfy a test;
* `cutLast`       what stands before and after the last such character;
* `after?`        what follows a word at the start of a text;
* `cutLastWord`   what stands before and after the last occurrence of a word.

`cut_ne_nil` says that there is always a part, `eq_of_cutLastWord` that the two sides and the word
make up the text.
-/

namespace DirectoryClient.Text

def cut (p : Char → Bool) : List Char → List (List Char)
  | [] => [[]]
  | c :: s =>
    if p c then [] :: cut p s
    else match cut p s with
      | part :: parts => (c :: part) :: parts
      | [] => [[c]]

/-- none if no character satisfies the test -/
def cutLast (p : Char → Bool) : List Char → Option (List Char × List Char)
  | [] => none
  | c :: s =>
    match cutLast p s with
    | some (before, after) => some (c :: before, after)
    | none => if p c then some ([], s) else none

def after? (w s : List Char) : Option (List Char) :=
  if w.isPrefixOf s then some (s.drop w.length) else none

def cutLastWord (w : List Char) : List Char → Option (List Char × List Char)
  | [] => none
  | c :: s =>
    match cutLastWord w s with
    | some (before, after) => some (c :: before, after)
    | none => (after? w (c :: s)).map fun after => ([], after)

theorem eq_of_after? {w s r : List Char} (h : after? w s = some r) : s = w ++ r := by
  rw [after?] at h
  split at h
  · next hp =>
    obtain ⟨t, rfl⟩ := List.isPrefixOf_iff_prefix.mp hp
    simpa using h
  · simp at h

theorem eq_of_cutLastWord {w s before after : List Char}
    (h : cutLastWord w s = some (before, after)) : s = before ++ w ++ after := by
  induction s generalizing before after with
  | nil => simp [cutLastWord] at h
  | cons c s ih =>
    rw [cutLastWord] at h
    split at h
    · next b a e =>
      simp only [Option.some.injEq, Prod.mk.injEq] at h
      rw [← h.1, ← h.2, ih e]
      simp
    · obtain ⟨a, ha, e⟩ := Option.map_eq_some_iff.mp h
      simp only [Prod.mk.injEq] at e
      rw [← e.1, ← e.2]
      simpa using eq_of_after? ha

theorem cut_ne_nil (p : Char → Bool) (s : List Char) : cut p s ≠ [] := by
  cases s with
  | nil => simp [cut]
  | cons c s =>
    rw [cut]
    split
    · simp
    · split <;> simp

end DirectoryClient.Text
