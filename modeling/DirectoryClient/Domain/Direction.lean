import DirectoryClient.Domain.Direction.Table
import DirectoryClient.Text.Rows

/-!
# Labels that run from right to left

A name with a letter that runs from right to left must be such that each of its labels keeps its
characters together when it is shown.

* `Direction`       how a character runs;
* `turns`           whether a text has something that runs from right to left;
* `keepsTogether`   the rule for one label of a name with such a text.
-/

namespace DirectoryClient.Domain

open DirectoryClient.Text

inductive Direction
  | left
  | right
  | european
  | arabic
  | following
  | neutral
  deriving DecidableEq, Repr

def rightRanges : List (Nat × Nat) := ranges rightText
def europeanRanges : List (Nat × Nat) := ranges europeanText
def arabicRanges : List (Nat × Nat) := ranges arabicText
def followingRanges : List (Nat × Nat) := ranges followingText
def neutralRanges : List (Nat × Nat) := ranges neutralText

def direction (c : Char) : Direction :=
  if inRanges rightRanges c.toNat then .right
  else if inRanges europeanRanges c.toNat then .european
  else if inRanges arabicRanges c.toNat then .arabic
  else if inRanges followingRanges c.toNat then .following
  else if inRanges neutralRanges c.toNat then .neutral
  else .left

def turns (s : List Char) : Bool :=
  s.any fun c => direction c == .right || direction c == .arabic

/-- A label starts with a letter and ends, but for marks, with a letter or digit of its direction.
Between them is nothing of the other direction, and not both kinds of digits. -/
def keepsTogether (label : List Char) : Bool :=
  match label.map direction with
  | [] => true
  | first :: others =>
    let inner := (others.reverse.dropWhile (· == .following)).reverse
    match first with
    | .left =>
      inner.getLast?.all [.left, .european].contains &&
        !inner.contains .right && !inner.contains .arabic
    | .right =>
      inner.getLast?.all [.right, .european, .arabic].contains && !inner.contains .left &&
        !(inner.contains .european && inner.contains .arabic)
    | _ => false

end DirectoryClient.Domain
