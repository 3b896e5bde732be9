import DirectoryClient.Domain.Direction
import DirectoryClient.Domain.Joiner
import DirectoryClient.Domain.Mapping
import DirectoryClient.Domain.Punycode
import DirectoryClient.Text.Mark
import DirectoryClient.Text.Split

/-!
# Domain names of any script

A name is folded and cut into labels.  A label that starts with `xn--` stands for one beyond ASCII,
which must be folded already.

* `Label.read`   what a written label stands for;
* `Label.fits`   the rules for the label that is meant;
* `read`         the name as it is folded, none if one of its labels breaks a rule.
-/

namespace DirectoryClient.Domain

open DirectoryClient.Text

/-- what an encoded label starts with -/
def Label.mark : List Char := ['x', 'n', '-', '-']

/-- the longest text after the mark of an encoded label -/
def Label.longestCode : Nat := 2000

/-- the longest label beyond ASCII -/
def Label.longest : Nat := 1000

def isAscii (s : List Char) : Bool := s.all (·.toNat < 0x80)

/-- A code that ends in a hyphen has nothing encoded and is refused. -/
def Label.read (label : List Char) : Option (List Char) :=
  if label.take 4 = mark then
    let code := label.drop 4
    if isAscii code && code.getLast?.any (· != '-') && code.length ≤ longestCode then
      (Punycode.decode code).filter isSettled
    else none
  else some label

/-- A label starts with no mark and has joiners only where they make a difference. -/
def Label.fits (label : List Char) : Bool :=
  !label.head?.any isMark && joins [] label && (isAscii label || label.length ≤ longest)

def read (s : List Char) : Option (List Char) := do
  let name ← folded s
  let labels ← (cut (· == '.') name).mapM Label.read
  if labels.all Label.fits && (!labels.any turns || labels.all keepsTogether) then some name
  else none

end DirectoryClient.Domain
