import DirectoryClient.Text.Blank
import DirectoryClient.Text.Hex

/-!
# Tables in writing

The data of a standard is written as a text: rows with commas between them, each of some
hexadecimal numbers with blanks between them.

* `rows`      the rows of such a text;
* `ranges`    rows of two numbers, the ends of a range, or of one, a range of its own.
-/

namespace DirectoryClient.Text

/-- the number that hexadecimal digits write -/
def hexRead (s : List Char) : Nat := (s.filterMap hexValue).foldl (fun n d => 16 * n + d) 0

def rows (text : String) : List (List Nat) :=
  (text.splitOn ",").map fun row => (words row.toList).map hexRead

def rangeOfRow : List Nat → Option (Nat × Nat)
  | [n] => some (n, n)
  | [first, last] => some (first, last)
  | _ => none

def ranges (text : String) : List (Nat × Nat) := (rows text).filterMap rangeOfRow

end DirectoryClient.Text
