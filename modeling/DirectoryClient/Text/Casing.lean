import DirectoryClient.Text.Blank
import DirectoryClient.Text.Casing.Table

/-!
# Lower case

* `asciiLower`   letters of ASCII only, everything else as it is;
* `lowercase`    every letter that has a lower case.  A capital sigma becomes the final form at the
                 end of a word and the usual form elsewhere; the dotted capital I becomes an i and
                 a combining dot.

`lowercase_ascii` says that the two agree on ASCII texts.
-/

namespace DirectoryClient.Text

def asciiLower (s : List Char) : List Char := s.map Char.toLower

/-- whether two strings agree up to the case of ASCII letters -/
def sameIgnoringCase (s t : String) : Bool := asciiLower s.toList == asciiLower t.toList

/-- the string with its ASCII letters in lower case -/
def asciiLowered (s : String) : String := String.ofList (asciiLower s.toList)

/-- the lower case of one character, read without its neighbours -/
def lowerChar (c : Char) : List Char :=
  if c.toNat < 0x80 then [c.toLower]
  else if c.toNat = 0x130 then ['i', Char.ofNat 0x307]
  else match lowerRuns.findSome? (·.lower? c.toNat) with
    | some n => [Char.ofNat n]
    | none => [c]

def isIgnorable (c : Char) : Bool := inRanges ignorableRanges c.toNat
def isCased (c : Char) : Bool := inRanges casedRanges c.toNat

/-- whether the first character that counts is a letter with case -/
def startsCased (s : List Char) : Bool :=
  match s.dropWhile isIgnorable with
  | c :: _ => isCased c
  | [] => false

def capitalSigma : Char := Char.ofNat 0x3A3
def smallSigma : Char := Char.ofNat 0x3C3
def finalSigma : Char := Char.ofNat 0x3C2

/-- `before` holds the characters already read, last one first. -/
def lowercaseFrom (before : List Char) : List Char → List Char
  | [] => []
  | c :: s =>
    (if c = capitalSigma then
      [if startsCased before && !startsCased s then finalSigma else smallSigma]
    else lowerChar c) ++ lowercaseFrom (c :: before) s

def lowercase (s : List Char) : List Char := lowercaseFrom [] s

/-- the string in lower case -/
def lowercased (s : String) : String := String.ofList (lowercase s.toList)

theorem lowercaseFrom_ascii (before s : List Char) (h : ∀ c ∈ s, c.toNat < 0x80) :
    lowercaseFrom before s = asciiLower s := by
  induction s generalizing before with
  | nil => rfl
  | cons c s ih =>
    have hc : c.toNat < 0x80 := h c (by simp)
    have hs : c ≠ capitalSigma := by
      intro e
      rw [e] at hc
      exact absurd hc (by decide)
    rw [lowercaseFrom, if_neg hs, lowerChar, if_pos hc, ih _ (fun d hd => h d (by simp [hd]))]
    rfl

theorem lowercase_ascii (s : List Char) (h : ∀ c ∈ s, c.toNat < 0x80) :
    lowercase s = asciiLower s :=
  lowercaseFrom_ascii [] s h

end DirectoryClient.Text
