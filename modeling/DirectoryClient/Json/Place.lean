import DirectoryClient.Text.Split

/-!
# Places in messages

A message about a JSON text may end in the place it speaks of: ` at line 3 column 14`.  A reason
given in words that end so is taken for a reason with a place.

* `Place`      a line and a column;
* `cutPlace?`  the words before the place, and the place;
* `settled`    the message with its place, if it has one, written in plain numbers.
-/

namespace DirectoryClient.Json

open DirectoryClient.Text

structure Place where
  line : Nat
  column : Nat
  deriving DecidableEq, Repr

def beforeLine : List Char := " at line ".toList
def beforeColumn : List Char := " column ".toList

/-- Lines are counted from one: line zero is no place in a text. -/
def Place.text (p : Place) : List Char :=
  if p.line = 0 then []
  else beforeLine ++ Nat.toDigits 10 p.line ++ beforeColumn ++ Nat.toDigits 10 p.column

/-- a decimal number of 64 bits, with zeros before it or not -/
def word? (ds : List Char) : Option Nat :=
  if ds.isEmpty || !ds.all Char.isDigit then none
  else
    let n := ds.foldl (fun n c => 10 * n + (c.toNat - 48)) 0
    if n < UInt64.size then some n else none

/-- A line, and after the words between them a column, up to the end of the text. -/
def place? (s : List Char) : Option Place :=
  match word? (s.takeWhile Char.isDigit), after? beforeColumn (s.dropWhile Char.isDigit) with
  | some line, some rest => (word? rest).map fun column => ⟨line, column⟩
  | _, _ => none

def cutPlace? (s : List Char) : Option (List Char × Place) :=
  (cutLastWord beforeLine s).bind fun (words, rest) => (place? rest).map fun p => (words, p)

def settled (message : String) : String :=
  match cutPlace? message.toList with
  | some (words, p) => String.ofList (words ++ p.text)
  | none => message

end DirectoryClient.Json
