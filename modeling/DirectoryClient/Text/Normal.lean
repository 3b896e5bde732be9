import DirectoryClient.Text.Normal.Table
import DirectoryClient.Text.Rows

/-!
# Composed normal form

Many characters can be written in several ways: as one character, or as a letter and the marks on
it.  The composed normal form (NFC) takes the shortest of them, with the marks in a fixed order.

* `combiningClass`   where a mark stands; marks of one class keep their order, letters have none;
* `decompose`        a character as the parts it is made of;
* `inOrder`          the marks after each letter, ordered by their classes;
* `composeChar`      the character that two are together;
* `compose`          each letter with the marks it can take in;
* `normal`           the normal form of a text.

`inOrder_perm` says that ordering moves characters but keeps them all.
-/

namespace DirectoryClient.Text

/-! ## the tables -/

def classRows : List (Nat × Nat × Nat) :=
  (rows classText).filterMap fun
    | [first, last, k] => some (first, last, k)
    | _ => none

def combiningClass (c : Char) : Nat :=
  if c.toNat < 0x80 then 0
  else match classRows.find? fun r => r.1 ≤ c.toNat && c.toNat ≤ r.2.1 with
    | some r => r.2.2
    | none => 0

/-- a character and the parts it is made of, in numbers -/
def partRows : List (Nat × List Nat) :=
  (rows aliasText ++ rows pairText).filterMap fun
    | n :: parts => some (n, parts)
    | [] => none

def uncomposedRanges : List (Nat × Nat) := ranges uncomposedText

/-- two parts and the character they become -/
def pairRows : List (Nat × Nat × Nat) :=
  (rows pairText).filterMap fun
    | [n, a, b] => if inRanges uncomposedRanges n then none else some (a, b, n)
    | _ => none

/-! ## syllables of Hangul -/

/-- A syllable is numbered by its leading consonant, its vowel and its trailing consonant. -/
def syllableBase : Nat := 0xAC00
def leadBase : Nat := 0x1100
def vowelBase : Nat := 0x1161
/-- one before the first trailing consonant: the number zero is none -/
def trailBase : Nat := 0x11A7
def leads : Nat := 19
def vowels : Nat := 21
def trails : Nat := 28

/-- the number of a character behind `base`, if it is below `count` -/
def indexIn (base count : Nat) (c : Char) : Option Nat :=
  if base ≤ c.toNat ∧ c.toNat < base + count then some (c.toNat - base) else none

def syllableParts (n : Nat) : List Char :=
  [Char.ofNat (leadBase + n / (vowels * trails)),
    Char.ofNat (vowelBase + n / trails % vowels)] ++
    if n % trails = 0 then [] else [Char.ofNat (trailBase + n % trails)]

/-- a lead with a vowel, or a syllable without a trail with one -/
def composeSyllable (c d : Char) : Option Char :=
  match indexIn leadBase leads c, indexIn vowelBase vowels d with
  | some l, some v => some (Char.ofNat (syllableBase + (l * vowels + v) * trails))
  | _, _ =>
    match indexIn syllableBase (leads * vowels * trails) c, indexIn trailBase trails d with
    | some n, some t =>
      if n % trails = 0 ∧ t ≠ 0 then some (Char.ofNat (c.toNat + t)) else none
    | _, _ => none

/-! ## taking apart -/

/-- the parts of a character, their parts and so on, `depth` times -/
def decomposeTo : Nat → Char → List Char
  | 0, c => [c]
  | depth + 1, c =>
    if c.toNat < 0x80 then [c]
    else match indexIn syllableBase (leads * vowels * trails) c with
      | some n => syllableParts n
      | none =>
        match partRows.lookup c.toNat with
        | some parts => (parts.map Char.ofNat).flatMap (decomposeTo depth)
        | none => [c]

/-- No character has parts of parts of parts that have parts themselves. -/
def decompose (c : Char) : List Char := decomposeTo 3 c

/-- puts a character before a text whose marks are in order -/
def place (c : Char) : List Char → List Char
  | [] => [c]
  | d :: s =>
    if 0 < combiningClass d ∧ combiningClass d < combiningClass c then d :: place c s
    else c :: d :: s

def inOrder : List Char → List Char
  | [] => []
  | c :: s => place c (inOrder s)

theorem place_perm (c : Char) (s : List Char) : (place c s).Perm (c :: s) := by
  induction s with
  | nil => exact .refl _
  | cons d s ih =>
    rw [place]
    split
    · exact (ih.cons d).trans (.swap c d s)
    · exact .refl _

theorem inOrder_perm (s : List Char) : (inOrder s).Perm s := by
  induction s with
  | nil => exact .refl _
  | cons c s ih => exact (place_perm c _).trans (ih.cons c)

/-! ## putting together -/

def composeChar (c d : Char) : Option Char :=
  match composeSyllable c d with
  | some e => some e
  | none => (pairRows.find? fun r => r.1 == c.toNat && r.2.1 == d.toNat).map
    fun r => Char.ofNat r.2.2

/-- Reads on after the letter `c` and the marks `marks` that it did not take in, the last one
first.  A character is out of reach of the letter if a mark of its class is between them. -/
def composeFrom (c : Char) (marks : List Char) : List Char → List Char
  | [] => c :: marks.reverse
  | d :: s =>
    let k := combiningClass d
    match if marks.head?.all (combiningClass · < k) then composeChar c d else none with
    | some e => composeFrom e marks s
    | none =>
      if k = 0 then c :: marks.reverse ++ composeFrom d [] s else composeFrom c (d :: marks) s

/-- Marks at the start have no letter to join. -/
def compose : List Char → List Char
  | [] => []
  | c :: s => if combiningClass c = 0 then composeFrom c [] s else c :: compose s

def normal (s : List Char) : List Char := compose (inOrder (s.flatMap decompose))

end DirectoryClient.Text
