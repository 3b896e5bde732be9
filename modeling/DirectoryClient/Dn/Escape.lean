import DirectoryClient.Dn.Basic
import DirectoryClient.Text.Blank
import DirectoryClient.Text.Hex
import DirectoryClient.Utf8

/-!
# Writing and reading attribute values

Some characters have a meaning inside a name and are written with a backslash: the separators, the
quote, the angle brackets and the backslash itself.  A space at either end, a number sign at the
start and NUL are written by their number.

* `escapeValue`     a value as it is written in a name;
* `unescapeBytes`   the bytes that a written value stands for: a backslash takes two hexadecimal
                    digits as one byte, or any other character as itself;
* `unescapeValue`   the value that a written one stands for, blanks around it left out;
* `Dn.normalized`   a name written from its relative names.
-/

namespace DirectoryClient

open DirectoryClient.Text

/-- the characters that have a backslash before them -/
def isSpecial (c : Char) : Bool :=
  c == ',' || c == '+' || c == '"' || c == '\\' || c == '<' || c == '>' || c == ';' || c == '='

/-- One character of a value; the flags tell whether it is the first and the last one. -/
def escapeChar (first last : Bool) (c : Char) : List Char :=
  if isSpecial c then ['\\', c]
  else if c.toNat = 0 then ['\\', '0', '0']
  else if c = ' ' && (first || last) then ['\\', '2', '0']
  else if c = '#' && first then ['\\', '2', '3']
  else [c]

def escapeFrom (first : Bool) : List Char → List Char
  | [] => []
  | c :: s => escapeChar first s.isEmpty c ++ escapeFrom false s

def escapeValue (value : String) : String := String.ofList (escapeFrom true value.toList)

/-- the number that two digits write -/
def hexPair (h l : Char) : Option UInt8 :=
  match hexValue h, hexValue l with
  | some a, some b => some (UInt8.ofNat (16 * a + b))
  | _, _ => none

/-- none if a backslash stands at the end -/
def unescapeBytes : List Char → Option (List UInt8)
  | [] => some []
  | '\\' :: [] => none
  | '\\' :: [c] => some (Utf8.encodeChar c)
  | '\\' :: h :: l :: s =>
    match hexPair h l with
    | some b => (unescapeBytes s).map (b :: ·)
    | none => (unescapeBytes (l :: s)).map (Utf8.encodeChar h ++ ·)
  | c :: s => (unescapeBytes s).map (Utf8.encodeChar c ++ ·)

/-- whether an odd number of backslashes stands at the end -/
def endsEscaping (s : List Char) : Bool := (s.reverse.takeWhile (· == '\\')).length % 2 == 1

/-- a written value without the blanks before it and the spaces after it; a space that a backslash
escapes stays -/
def trimValue (s : List Char) : List Char :=
  let t := trimStart s
  let v := dropEndWhile (· == ' ') t
  if endsEscaping v && v.length < t.length then v ++ [' '] else v

def unescapeValue (s : List Char) : Except DnFlaw String :=
  match unescapeBytes (trimValue s) with
  | none => .error .trailingBackslash
  | some bytes =>
    match Utf8.decode bytes with
    | .ok v => .ok (String.ofList v)
    | .error _ => .error .invalidUtf8

namespace Dn

def avaText (a : Ava) : String := a.type ++ "=" ++ escapeValue a.value
def rdnText (r : Rdn) : String := "+".intercalate (r.map avaText)

/-- the canonical text of a name; an extended name keeps its own -/
def normalized (d : Dn) : String :=
  match d.form with
  | .extended => d.text
  | .plain rdns => ",".intercalate (rdns.map rdnText)
  | .qualified rdns => ",".intercalate (rdns.map rdnText)

end Dn

end DirectoryClient
