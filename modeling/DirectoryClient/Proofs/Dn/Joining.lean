import DirectoryClient.Proofs.Attempts
import DirectoryClient.Proofs.Dn.Splitting
import DirectoryClient.Proofs.Text.Blank

/-!
# Texts put together with separators

* `Joined`                  texts of the members of a list, with a separator between two of them;
* `Joined.isSealed`         nothing in it separates if nothing in its members does;
* `Joined.cut`, `Joined.read`   it is cut into its members, which are read one by one;
* `Joined.head?_trim`, `Joined.dropEndWhile`   what trimming does to its two ends.
-/

namespace DirectoryClient

open DirectoryClient.Text

/-- Texts of the members of a list, as `P` has them, with one of the separators between two. -/
inductive Joined {α : Type} (P : α → List Char → Prop) (separators : List Char) :
    List α → List Char → Prop
  | single {a : α} {s : List Char} (h : P a s) : Joined P separators [a] s
  | cons {a : α} {s : List Char} (h : P a s) {c : Char} (hc : c ∈ separators) {l : List α}
      {t : List Char} (ht : Joined P separators l t) : Joined P separators (a :: l) (s ++ c :: t)

namespace Joined

variable {α : Type} {P : α → List Char → Prop} {separators : List Char} {separator : Char → Bool}
  {l : List α} {s : List Char}

theorem isSealed (h : Joined P separators l s) (hP : ∀ a s, P a s → Sealed separator s)
    (hc : ∀ c ∈ separators, c ≠ '\\' ∧ separator c = false) : Sealed separator s := by
  induction h with
  | single h => exact hP _ _ h
  | cons h hmem _ ih =>
    obtain ⟨hb, hsep⟩ := hc _ hmem
    exact (hP _ _ h).append (.plain hb hsep ih)

/-! ## Reading -/

section
variable (hsealed : ∀ a s, P a s → Sealed separator s)
  (hc : ∀ c ∈ separators, c ≠ '\\' ∧ separator c = true)
  (hblank : ∀ a s, P a s → s.all isBlank = false)
include hsealed hc hblank

/-- It is cut into texts of its members. -/
theorem cut (h : Joined P separators l s) :
    ∃ ps, parts separator s = .ok ps ∧ List.Forall₂ P l ps := by
  induction h with
  | single h => exact ⟨_, parts_of_sealed (hsealed _ _ h) (hblank _ _ h), .cons h .nil⟩
  | cons h hmem _ ih =>
    obtain ⟨ps, hps, hall⟩ := ih
    obtain ⟨hb, hsep⟩ := hc _ hmem
    exact ⟨_, parts_cons hb hsep (hsealed _ _ h) (hblank _ _ h) hps, .cons h hall⟩

/-- Its members are read one by one. -/
theorem read {f : List Char → Except DnFlaw α} (hread : ∀ a s, P a s → f s = .ok a)
    (h : Joined P separators l s) : (parts separator s >>= fun ps => ps.mapM f) = .ok l := by
  obtain ⟨ps, hps, hall⟩ := h.cut hsealed hc hblank
  rw [hps]
  show ps.mapM f = .ok l
  apply mapM_eq_ok_iff.mpr
  exact hall.flip.imp fun p a hp => hread a p hp

end

/-! ## Trimming -/

/-- The first character that stays is one of the first member. -/
theorem head?_trim (h : Joined P separators l s) (hblank : ∀ a s, P a s → s.all isBlank = false)
    {c : Char} (hP : ∀ a s, P a s → (trim s).head? ≠ some c) : (trim s).head? ≠ some c := by
  cases h with
  | single h => exact hP _ _ h
  | cons h _ _ =>
    rw [head?_trim_append (hblank _ _ h)]
    exact hP _ _ h

theorem all_isBlank (h : Joined P separators l s)
    (hblank : ∀ a s, P a s → s.all isBlank = false) : s.all isBlank = false := by
  cases h with
  | single h => exact hblank _ _ h
  | cons h _ _ => rw [List.all_append, hblank _ _ h, Bool.false_and]

/-- Blanks are taken away behind the last member alone. -/
theorem dropEndWhile (h : Joined P separators l s) (hc : ∀ c ∈ separators, isBlank c = false)
    (hP : ∀ a s, P a s → P a (Text.dropEndWhile isBlank s)) :
    Joined P separators l (Text.dropEndWhile isBlank s) := by
  induction h with
  | single h => exact .single (hP _ _ h)
  | @cons a s h c hmem l t ht ih =>
    have hlast : ∀ d ∈ (s ++ [c]).getLast?, isBlank d = false := by
      intro d hd
      rw [List.getLast?_concat] at hd
      obtain rfl := Option.some.inj hd
      exact hc _ hmem
    rw [List.append_cons, dropEndWhile_append hlast, List.append_assoc]
    exact .cons h hmem ih

end Joined

end DirectoryClient
