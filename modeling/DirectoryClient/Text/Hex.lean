/-!
# Hexadecimal digits

* `hexValue`        the value of a digit in either letter case;
* `hexDigit`        the digit of a value below sixteen, letters in lower case;
* `hexUpper`        the same with letters in upper case;
* `hexNumber`       a number in lower-case digits without leading zeros.

`hexValue_hexDigit` and `hexValue_hexUpper` read the digits back.
-/

namespace DirectoryClient.Text

def hexValue (c : Char) : Option Nat :=
  if '0' ≤ c ∧ c ≤ '9' then some (c.toNat - 48)
  else if 'a' ≤ c ∧ c ≤ 'f' then some (c.toNat - 87)
  else if 'A' ≤ c ∧ c ≤ 'F' then some (c.toNat - 55)
  else none

def isHex (c : Char) : Bool := (hexValue c).isSome

def hexDigit (n : Nat) : Char := if n < 10 then Char.ofNat (48 + n) else Char.ofNat (87 + n)
def hexUpper (n : Nat) : Char := if n < 10 then Char.ofNat (48 + n) else Char.ofNat (55 + n)

def hexNumber (n : Nat) : List Char :=
  if n < 16 then [hexDigit n] else hexNumber (n / 16) ++ [hexDigit (n % 16)]

/-- two digits, the higher one first -/
def hexByte (b : UInt8) : List Char := [hexDigit (b.toNat / 16), hexDigit (b.toNat % 16)]

/-- a sequence of bytes, two digits each -/
def hexBytes (bytes : List UInt8) : String := String.ofList (bytes.flatMap hexByte)

/-- the bytes written in pairs of digits; nothing if the digits are odd in number or one is no
digit -/
def bytesOfHex : List Char → Option (List UInt8)
  | [] => some []
  | [_] => none
  | h :: l :: s =>
    match hexValue h, hexValue l, bytesOfHex s with
    | some a, some b, some rest => some (UInt8.ofNat (16 * a + b) :: rest)
    | _, _, _ => none

theorem hexValue_hexDigit : ∀ n : Fin 16, hexValue (hexDigit n) = some n.val := by decide
theorem hexValue_hexUpper : ∀ n : Fin 16, hexValue (hexUpper n) = some n.val := by decide

end DirectoryClient.Text
