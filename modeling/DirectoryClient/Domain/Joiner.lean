import DirectoryClient.Domain.Joiner.Table
import DirectoryClient.Text.Normal

/-!
# Joiners

Two characters without a shape say whether the letters around them join.  They are allowed only
where they make a difference.

* `isJoiner`   the two characters;
* `connects`   whether the letters on both sides would join without the joiner;
* `joins`      the rule for all joiners of a label.
-/

namespace DirectoryClient.Domain

open DirectoryClient.Text

/-- keeps letters apart -/
def nonJoiner : Char := Char.ofNat 0x200C
/-- brings letters together -/
def joiner : Char := Char.ofNat 0x200D

def isJoiner (c : Char) : Bool := c == nonJoiner || c == joiner

def joinsNextRanges : List (Nat × Nat) := ranges joinsNextText
def joinsPreviousRanges : List (Nat × Nat) := ranges joinsPreviousText
def transparentRanges : List (Nat × Nat) := ranges transparentText

/-- the class of the signs that take away the vowel of the letter before them -/
def viramaClass : Nat := 9

/-- the first character that letters do not join across -/
def nextLetter (s : List Char) : Option Char :=
  (s.dropWhile fun c => inRanges transparentRanges c.toNat).head?

/-- `before` holds the characters before the joiner, last one first. -/
def connects (before after : List Char) : Bool :=
  (nextLetter before).any (fun c => inRanges joinsNextRanges c.toNat) &&
    (nextLetter after).any fun c => inRanges joinsPreviousRanges c.toNat

/-- Either joiner may follow the sign of a missing vowel. -/
def joins (before : List Char) : List Char → Bool
  | [] => true
  | c :: s =>
    (!isJoiner c || before.head?.any (combiningClass · == viramaClass) ||
      (c == nonJoiner && connects before s)) && joins (c :: before) s

end DirectoryClient.Domain
