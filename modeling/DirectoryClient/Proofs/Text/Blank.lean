import DirectoryClient.Text.Blank
import Mathlib.Data.List.DropRight

/-!
# Trimming

* `trim_eq_nil_iff`    nothing is left of a text of blanks, and of no other text;
* `trim_eq_self`       a text without a blank at either end stays as it is;
* `trim_trim`          nothing is trimmed away twice;
* `dropEndWhile_append`   trimming at the end stops at a character that stays;
* `exists_blanks_append_trimStart`, `exists_dropEndWhile_append_blanks`   a text and what trimming
                       leaves of it at one end;
* `head?_trim`         the first character that stays.
-/

namespace DirectoryClient.Text

theorem dropEndWhile_eq_self {p : Char → Bool} {s : List Char}
    (h : ∀ c ∈ s.getLast?, p c = false) : dropEndWhile p s = s := by
  refine List.rdropWhile_eq_self_iff.mpr fun hne hp => ?_
  rw [h _ (List.getLast?_eq_some_getLast hne)] at hp
  cases hp

theorem trimStart_eq_self {s : List Char} (h : ∀ c ∈ s.head?, isBlank c = false) :
    trimStart s = s := by
  cases s with
  | nil => rfl
  | cons c s => rw [trimStart, List.dropWhile_cons, h c rfl]; rfl

theorem trim_eq_self {s : List Char} (hhead : ∀ c ∈ s.head?, isBlank c = false)
    (hlast : ∀ c ∈ s.getLast?, isBlank c = false) : trim s = s := by
  rw [trim, trimStart_eq_self hhead, dropEndWhile_eq_self hlast]

theorem trim_eq_nil_iff {s : List Char} : trim s = [] ↔ s.all isBlank = true := by
  have hstart : (∀ c ∈ trimStart s, isBlank c = true) ↔ trimStart s = [] := by
    constructor
    · intro h
      refine List.eq_nil_iff_forall_not_mem.mpr fun c hc => ?_
      have hne : 0 < (trimStart s).length := List.length_pos_of_mem hc
      exact List.dropWhile_get_zero_not isBlank s hne (h _ (List.get_mem _ _))
    · intro h
      rw [h]
      exact List.forall_mem_nil _
  rw [List.all_eq_true, ← List.dropWhile_eq_nil_iff, ← trimStart, ← hstart]
  exact List.rdropWhile_eq_nil_iff

theorem mem_of_mem_trim {s : List Char} {c : Char} (h : c ∈ trim s) : c ∈ s := by
  have hstart : c ∈ trimStart s := (List.rdropWhile_prefix isBlank (trimStart s)).subset h
  exact (List.dropWhile_suffix isBlank).subset hstart

theorem trim_trim (s : List Char) : trim (trim s) = trim s := by
  refine trim_eq_self (fun c hc => ?_) (fun c hc => ?_)
  · -- what is left begins like the text without the blanks at its start
    obtain ⟨rest, hrest⟩ := List.rdropWhile_prefix isBlank (trimStart s)
    have hhead : (trimStart s).head? = some c := by
      rw [← hrest, List.head?_append]
      exact Option.or_eq_some_iff.mpr (.inl hc)
    have hnot := List.head?_dropWhile_not isBlank s
    rw [← trimStart, hhead] at hnot
    exact hnot
  · obtain ⟨hne, rfl⟩ := List.mem_getLast?_eq_getLast hc
    have hlast := List.rdropWhile_last_not isBlank (trimStart s) hne
    exact Bool.eq_false_iff.mpr hlast

theorem dropEndWhile_append_of_ne_nil {p : Char → Bool} {t : List Char}
    (h : dropEndWhile p t ≠ []) (s : List Char) :
    dropEndWhile p (s ++ t) = s ++ dropEndWhile p t := by
  have hne : (t.reverse.dropWhile p).isEmpty = false := by
    cases hd : t.reverse.dropWhile p with
    | nil => rw [dropEndWhile, hd] at h; exact absurd rfl h
    | cons c u => rfl
  simp [dropEndWhile, List.dropWhile_append, hne]

theorem dropEndWhile_append_of_eq_nil {p : Char → Bool} {t : List Char}
    (h : dropEndWhile p t = []) (s : List Char) :
    dropEndWhile p (s ++ t) = dropEndWhile p s := by
  have hnil : t.reverse.dropWhile p = [] := List.reverse_eq_nil_iff.mp h
  simp [dropEndWhile, List.dropWhile_append, hnil]

/-- What stands before a character that stays is not looked at. -/
theorem dropEndWhile_append {p : Char → Bool} {s : List Char}
    (h : ∀ c ∈ s.getLast?, p c = false) (t : List Char) :
    dropEndWhile p (s ++ t) = s ++ dropEndWhile p t := by
  by_cases hnil : dropEndWhile p t = []
  · rw [dropEndWhile_append_of_eq_nil hnil, dropEndWhile_eq_self h, hnil, List.append_nil]
  · exact dropEndWhile_append_of_ne_nil hnil s

theorem getLast?_dropEndWhile {p : Char → Bool} {s : List Char} :
    ∀ c ∈ (dropEndWhile p s).getLast?, p c = false := by
  intro c hc
  obtain ⟨hne, rfl⟩ := List.mem_getLast?_eq_getLast hc
  exact Bool.eq_false_iff.mpr (List.rdropWhile_last_not p s hne)

theorem getLast?_dropWhile {p : Char → Bool} {s : List Char} :
    ∀ c ∈ (s.dropWhile p).getLast?, c ∈ s.getLast? := by
  intro c hc
  obtain ⟨front, hfront⟩ := List.dropWhile_suffix p (l := s)
  have hne : s.dropWhile p ≠ [] := by
    intro hnil
    rw [hnil] at hc
    cases hc
  rwa [← hfront, List.getLast?_append_of_ne_nil front hne]

/-- A text begins with blanks, and what is left does not. -/
theorem exists_blanks_append_trimStart (s : List Char) :
    ∃ blanks, (∀ c ∈ blanks, isBlank c = true) ∧ s = blanks ++ trimStart s :=
  ⟨s.takeWhile isBlank, fun _ hc => List.mem_takeWhile_imp hc,
    (List.takeWhile_append_dropWhile (p := isBlank)).symm⟩

theorem exists_dropEndWhile_append_blanks (s : List Char) :
    ∃ blanks, (∀ c ∈ blanks, isBlank c = true) ∧ s = dropEndWhile isBlank s ++ blanks :=
  ⟨s.rtakeWhile isBlank, fun _ hc => List.mem_rtakeWhile_imp hc,
    List.rdropWhile_append_rtakeWhile.symm⟩

theorem trimStart_blanks_append {blanks : List Char} (h : ∀ c ∈ blanks, isBlank c = true)
    (s : List Char) : trimStart (blanks ++ s) = trimStart s :=
  List.dropWhile_append_of_pos h

theorem trim_blanks_append {blanks : List Char} (h : ∀ c ∈ blanks, isBlank c = true)
    (s : List Char) : trim (blanks ++ s) = trim s := by
  rw [trim, trimStart_blanks_append h, trim]

/-- A text that is not blank has something in front of the blanks at its end. -/
theorem dropEndWhile_ne_nil {s : List Char} (h : s.all isBlank = false) :
    dropEndWhile isBlank s ≠ [] := by
  intro hnil
  rw [List.all_eq_true.mpr (List.rdropWhile_eq_nil_iff.mp hnil)] at h
  cases h

theorem all_isBlank_dropEndWhile {s : List Char} (h : s.all isBlank = false) :
    (dropEndWhile isBlank s).all isBlank = false := by
  refine Bool.eq_false_iff.mpr fun hall => ?_
  have hlast := List.getLast?_eq_some_getLast (dropEndWhile_ne_nil h)
  have hblank := List.all_eq_true.mp hall _ (List.getLast_mem (dropEndWhile_ne_nil h))
  rw [getLast?_dropEndWhile _ hlast] at hblank
  cases hblank

/-- What is left of a text begins with the first of its characters that is not blank. -/
theorem head?_trim (s : List Char) : (trim s).head? = s.find? (!isBlank ·) := by
  have hstart : (trimStart s).head? = s.find? (!isBlank ·) := by
    induction s with
    | nil => rfl
    | cons c s ih =>
      rw [trimStart, List.dropWhile_cons, List.find?_cons]
      cases hc : isBlank c with
      | true => exact ih
      | false => rfl
  rw [← hstart, trim]
  cases ht : trimStart s with
  | nil => rfl
  | cons c t =>
    have hc : isBlank c = false := by
      have hnot := List.head?_dropWhile_not isBlank s
      rw [← trimStart, ht] at hnot
      exact hnot
    have hone : ∀ d ∈ [c].getLast?, isBlank d = false := by
      intro d hd
      rwa [← Option.some.inj hd]
    have hkept := dropEndWhile_append hone t
    rw [List.singleton_append] at hkept
    rw [hkept]
    rfl

theorem head?_trim_append {s : List Char} (h : s.all isBlank = false) (t : List Char) :
    (trim (s ++ t)).head? = (trim s).head? := by
  rw [head?_trim, head?_trim, List.find?_append]
  cases hfirst : s.find? (!isBlank ·) with
  | some c => rfl
  | none =>
    have hall : s.all isBlank = true := by simpa using hfirst
    rw [hall] at h
    cases h

end DirectoryClient.Text
