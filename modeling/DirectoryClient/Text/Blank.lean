/-!
# Blanks

The characters that separate words and that trimming removes: the Unicode property White_Space.

* `isBlank`             membership in the property;
* `trimStart`, `trim`   a text without the blanks at its start, at both ends;
* `words`               the maximal runs of characters that are not blank.

`words_noBlank` says that no word holds a blank, `trim_noBlank` that a text without blanks is its
own trimming.
-/

namespace DirectoryClient.Text

/-- the ranges of White_Space -/
def blankRanges : List (Nat × Nat) :=
  [(0x9, 0xD), (0x20, 0x20), (0x85, 0x85), (0xA0, 0xA0), (0x1680, 0x1680), (0x2000, 0x200A),
   (0x2028, 0x2029), (0x202F, 0x202F), (0x205F, 0x205F), (0x3000, 0x3000)]

/-- whether a number lies in one of the ranges, ends included -/
def inRanges (ranges : List (Nat × Nat)) (n : Nat) : Bool :=
  ranges.any fun r => r.1 ≤ n && n ≤ r.2

def isBlank (c : Char) : Bool := inRanges blankRanges c.toNat

def trimStart (s : List Char) : List Char := s.dropWhile isBlank

/-- `s` without the characters at its end that satisfy `p` -/
def dropEndWhile (p : Char → Bool) (s : List Char) : List Char := (s.reverse.dropWhile p).reverse

def trim (s : List Char) : List Char := dropEndWhile isBlank (trimStart s)

/-- A character before words joins the first word, if that word starts at once. -/
def words : List Char → List (List Char)
  | [] => []
  | [c] => if isBlank c then [] else [[c]]
  | c :: d :: s =>
    if isBlank c then words (d :: s)
    else if isBlank d then [c] :: words (d :: s)
    else match words (d :: s) with
      | w :: ws => (c :: w) :: ws
      | [] => [[c]]

/-- the text of a string without the blanks at its two ends -/
def trimmed (s : String) : String := String.ofList (trim s.toList)

/-- whether a string has nothing but blanks -/
def blank (s : String) : Bool := s.toList.all isBlank

theorem isBlank_space : isBlank ' ' = true := by decide

theorem words_noBlank (s : List Char) : ∀ w ∈ words s, ∀ c ∈ w, isBlank c = false := by
  induction s using words.induct with
  | case1 => simp [words]
  | case2 c h => simp [words, h]
  | case3 c h => simp [words, h]
  | case4 c d s h ih => simpa [words, h] using ih
  | case5 c d s h hd ih =>
    intro w hw
    rw [words, if_neg h, if_pos hd] at hw
    rcases List.mem_cons.mp hw with rfl | hw
    · simpa using h
    · exact ih w hw
  | case6 c d s h hd w ws e ih =>
    intro v hv
    rw [words, if_neg h, if_neg hd, e] at hv
    rw [e] at ih
    rcases List.mem_cons.mp hv with rfl | hv
    · intro x hx
      rcases List.mem_cons.mp hx with rfl | hx
      · simpa using h
      · exact ih w (by simp) x hx
    · exact ih v (by simp [hv])
  | case7 c d s h hd e ih =>
    intro v hv
    rw [words, if_neg h, if_neg hd, e] at hv
    simp only [List.mem_singleton] at hv
    subst hv
    simpa using h

theorem dropWhile_of_all_not {p : Char → Bool} {s : List Char} (h : ∀ c ∈ s, p c = false) :
    s.dropWhile p = s := by
  cases s with
  | nil => rfl
  | cons c s => rw [List.dropWhile_cons, h c (by simp)]; rfl

theorem trim_noBlank {s : List Char} (h : ∀ c ∈ s, isBlank c = false) : trim s = s := by
  rw [trim, trimStart, dropWhile_of_all_not h, dropEndWhile,
    dropWhile_of_all_not (fun c hc => h c (List.mem_reverse.mp hc)), List.reverse_reverse]

end DirectoryClient.Text
