import DirectoryClient.Json.Number
import DirectoryClient.Text.Hex

/-!
# Reading JSON text

* `readString`   the characters up to the closing quote;
* `readNumber`   a number;
* `readValue`    a value and what follows it; the first argument bounds the depth of the recursion
                 by the length of the text;
* `parse`        a text that is one value, blanks around it allowed.

A member that occurs twice in an object counts with its last value.
-/

namespace DirectoryClient.Json

open DirectoryClient.Text

def isGap (c : Char) : Bool := c == ' ' || c == '\n' || c == '\r' || c == '\t'

def skip (s : List Char) : List Char := s.dropWhile isGap

/-- the number that four digits write -/
def fourDigits (a b c d : Char) : Option Nat :=
  match hexValue a, hexValue b, hexValue c, hexValue d with
  | some a, some b, some c, some d => some (4096 * a + 256 * b + 16 * c + d)
  | _, _, _, _ => none

/-- the character that two halves of a pair write -/
def pairValue (high low : Nat) : Option Char :=
  if 0xD800 ≤ high ∧ high < 0xDC00 ∧ 0xDC00 ≤ low ∧ low < 0xE000 then
    some (Char.ofNat (0x10000 + (high - 0xD800) * 1024 + (low - 0xDC00)))
  else none

/-- the character that a letter after a backslash stands for -/
def escapeValue (c : Char) : Option Char :=
  match c with
  | '"' => some '"'
  | '\\' => some '\\'
  | '/' => some '/'
  | 'b' => some (Char.ofNat 8)
  | 'f' => some (Char.ofNat 12)
  | 'n' => some '\n'
  | 'r' => some '\r'
  | 't' => some '\t'
  | _ => none

/-- `seen` holds the characters already read, last one first. -/
def readString (seen : List Char) : List Char → Option (String × List Char)
  | [] => none
  | '"' :: s => some (String.ofList seen.reverse, s)
  | '\\' :: 'u' :: a :: b :: c :: d :: '\\' :: 'u' :: e :: f :: g :: h :: s =>
    match fourDigits a b c d with
    | none => none
    | some n =>
      if 0xD800 ≤ n ∧ n < 0xE000 then
        match (fourDigits e f g h).bind (pairValue n) with
        | some x => readString (x :: seen) s
        | none => none
      else readString (Char.ofNat n :: seen) ('\\' :: 'u' :: e :: f :: g :: h :: s)
  | '\\' :: 'u' :: a :: b :: c :: d :: s =>
    match fourDigits a b c d with
    | some n => if 0xD800 ≤ n ∧ n < 0xE000 then none else readString (Char.ofNat n :: seen) s
    | none => none
  | '\\' :: c :: s =>
    match escapeValue c with
    | some x => readString (x :: seen) s
    | none => none
  | c :: s => if c.toNat < 0x20 then none else readString (c :: seen) s

def digitValues (s : List Char) : List Nat := s.map fun c => c.toNat - 48

/-- the sign of an exponent and what follows it -/
def exponentSign : List Char → Bool × List Char
  | '-' :: s => (true, s)
  | '+' :: s => (false, s)
  | s => (false, s)

/-- the exponent at the start of a text, none if there is a mark without digits -/
def readExponent (s : List Char) : Option (Option Int × List Char) :=
  match s with
  | c :: r =>
    if c = 'e' || c = 'E' then
      let (negative, r) := exponentSign r
      match digitValues (r.takeWhile Char.isDigit) with
      | [] => none
      | ds =>
        let n : Int := ofDigits ds
        some (some (if negative then -n else n), r.dropWhile Char.isDigit)
    else some (none, s)
  | [] => some (none, [])

/-- the fraction at the start of a text, none if there is a point without digits -/
def readFraction (s : List Char) : Option (List Nat × List Char) :=
  match s with
  | '.' :: r =>
    match digitValues (r.takeWhile Char.isDigit) with
    | [] => none
    | ds => some (ds, r.dropWhile Char.isDigit)
  | _ => some ([], s)

def readNumber (s : List Char) : Option (Json × List Char) := do
  let (negative, s) := match s with
    | '-' :: r => (true, r)
    | _ => (false, s)
  let whole := digitValues (s.takeWhile Char.isDigit)
  guard (!whole.isEmpty && (whole.head? != some 0 || whole.length == 1))
  let (fraction, s) ← readFraction (s.dropWhile Char.isDigit)
  let (exponent, s) ← readExponent s
  let value ← Numeral.value
    ⟨negative, whole, fraction, exponent.getD 0, fraction.isEmpty && exponent.isNone⟩
  return (value, s)

/-- the text after a word, if it begins with it -/
def afterWord (w s : List Char) : Option (List Char) :=
  if w.isPrefixOf s then some (s.drop w.length) else none

/-- the members with `name` set to `value`, at the end if it is new -/
def setMember (name : String) (value : Json) (members : List (String × Json)) :
    List (String × Json) :=
  members.filter (fun m => m.1 != name) ++ [(name, value)]

mutual

def readValue : Nat → List Char → Option (Json × List Char)
  | 0, _ => none
  | n + 1, s =>
    match skip s with
    | '"' :: r => (readString [] r).map fun (t, r) => (.str t, r)
    | '[' :: r =>
      match skip r with
      | ']' :: r => some (.arr [], r)
      | r => readItems n [] r
    | '\x7b' :: r =>
      match skip r with
      | '\x7d' :: r => some (.obj [], r)
      | r => readMembers n [] r
    | r =>
      match afterWord ['n', 'u', 'l', 'l'] r with
      | some r => some (.null, r)
      | none =>
        match afterWord ['t', 'r', 'u', 'e'] r with
        | some r => some (.bool true, r)
        | none =>
          match afterWord ['f', 'a', 'l', 's', 'e'] r with
          | some r => some (.bool false, r)
          | none => readNumber r

/-- the items of an array up to its end; `seen` holds those already read, last one first -/
def readItems : Nat → List Json → List Char → Option (Json × List Char)
  | 0, _, _ => none
  | n + 1, seen, s =>
    match readValue n s with
    | none => none
    | some (j, r) =>
      match skip r with
      | ',' :: r => readItems n (j :: seen) r
      | ']' :: r => some (.arr (j :: seen).reverse, r)
      | _ => none

/-- the members of an object up to its end -/
def readMembers : Nat → List (String × Json) → List Char → Option (Json × List Char)
  | 0, _, _ => none
  | n + 1, seen, s =>
    match skip s with
    | '"' :: r =>
      match readString [] r with
      | none => none
      | some (key, r) =>
        match skip r with
        | ':' :: r =>
          match readValue n r with
          | none => none
          | some (j, r) =>
            match skip r with
            | ',' :: r => readMembers n (setMember key j seen) r
            | '\x7d' :: r => some (.obj (setMember key j seen), r)
            | _ => none
        | _ => none
    | _ => none

end

def parse (s : String) : Option Json :=
  match readValue (2 * s.toList.length + 2) s.toList with
  | some (j, r) => if (skip r).isEmpty then some j else none
  | none => none

end DirectoryClient.Json
