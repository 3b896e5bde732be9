import DirectoryClient.Json.Basic
import DirectoryClient.Decimal.Layout
import DirectoryClient.Text.Hex

/-!
# Compact JSON text

No blanks between the parts; members in their order.  In strings the quote, the backslash and the
control characters are escaped, everything else stands for itself.

* `numbers`    how floating-point numbers are laid out;
* `escape`     one character of a string;
* `text`       a value;
* `compact`    the same as a string.
-/

namespace DirectoryClient.Json

open DirectoryClient.Text

/-- Numbers from 0.00001 up to sixteen digits before the point are written out, others have an
exponent with its sign. -/
def numbers : Decimal.Layout := ⟨-5, 15, true, .even⟩

def escape (c : Char) : List Char :=
  match c with
  | '"' => ['\\', '"']
  | '\\' => ['\\', '\\']
  | '\n' => ['\\', 'n']
  | '\r' => ['\\', 'r']
  | '\t' => ['\\', 't']
  | c =>
    if c.toNat = 8 then ['\\', 'b']
    else if c.toNat = 12 then ['\\', 'f']
    else if c.toNat < 0x20 then
      ['\\', 'u', '0', '0', hexDigit (c.toNat / 16), hexDigit (c.toNat % 16)]
    else [c]

def stringText (s : String) : List Char := ['"'] ++ s.toList.flatMap escape ++ ['"']

def intText (n : Int) : List Char :=
  (if n < 0 then ['-'] else []) ++ Nat.toDigits 10 n.natAbs

/-- What is no finite number has no written form but null. -/
def floatText (x : Float) : List Char :=
  match Decimal.Binary.ofBits x.toBits with
  | .finite _ _ _ _ => numbers.write x
  | _ => ['n', 'u', 'l', 'l']

mutual

def text : Json → List Char
  | .null => ['n', 'u', 'l', 'l']
  | .bool true => ['t', 'r', 'u', 'e']
  | .bool false => ['f', 'a', 'l', 's', 'e']
  | .int n => intText n
  | .float x => floatText x
  | .str s => stringText s
  | .arr [] => ['[', ']']
  | .arr (j :: items) => ['['] ++ text j ++ itemsText items ++ [']']
  | .obj [] => ['\x7b', '\x7d']
  | .obj ((key, value) :: members) =>
    ['\x7b'] ++ stringText key ++ [':'] ++ text value ++ membersText members ++
      ['\x7d']

/-- items after the first one -/
def itemsText : List Json → List Char
  | [] => []
  | j :: items => [','] ++ text j ++ itemsText items

/-- members after the first one -/
def membersText : List (String × Json) → List Char
  | [] => []
  | (key, value) :: members =>
    [','] ++ stringText key ++ [':'] ++ text value ++ membersText members

end

def compact (j : Json) : String := String.ofList (text j)

end DirectoryClient.Json
