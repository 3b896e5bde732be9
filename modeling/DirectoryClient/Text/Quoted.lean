import DirectoryClient.Text.Blank
import DirectoryClient.Text.Hex
import DirectoryClient.Text.Quoted.Table

/-!
# Quoted text, as inspection shows it

A string stands between double quotes.  Inside, the quote and the backslash are written with a
backslash before them, the characters NUL, tab, line feed and carriage return by a letter or digit
of their own, and every other character that cannot be seen by its number in braces.

* `isUnprintable`   the characters that have no shape of their own;
* `isHidden`        the characters written by their number: those, and the ones that would join the
                    character before them;
* `escaped`         one character;
* `quoted`          a whole string.
-/

namespace DirectoryClient.Text

def isUnprintable (c : Char) : Bool :=
  if c.toNat < 0x7F then c.toNat < 0x20 else inRanges unprintableRanges c.toNat

def isExtending (c : Char) : Bool := 0x7F ≤ c.toNat && inRanges extendingRanges c.toNat

def isHidden (c : Char) : Bool := isUnprintable c || isExtending c

def escaped (c : Char) : List Char :=
  match c with
  | '"' => ['\\', '"']
  | '\\' => ['\\', '\\']
  | '\n' => ['\\', 'n']
  | '\r' => ['\\', 'r']
  | '\t' => ['\\', 't']
  | c =>
    if c.toNat = 0 then ['\\', '0']
    else if isHidden c then ['\\', 'u', '\x7b'] ++ hexNumber c.toNat ++ ['\x7d']
    else [c]

def quoted (s : String) : String :=
  String.ofList (['"'] ++ s.toList.flatMap escaped ++ ['"'])

end DirectoryClient.Text
