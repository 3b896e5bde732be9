import DirectoryClient.Text.Hex
import DirectoryClient.Utf8

/-!
# Percent-encoding

A byte may be written as a percent sign and two hexadecimal digits.

* `encodeByte`, `encode`   the written form; `encode keep` writes the characters that `keep`
                           refuses, byte by byte;
* `decode`                 every complete triple becomes its byte, all else stays.

`decode_triple` undoes one written byte, `decode_plain` says that bytes other than the percent sign
stay.
-/

namespace DirectoryClient.Percent

open DirectoryClient.Text

/-- the percent sign -/
def sign : UInt8 := 0x25

def encodeByte (b : UInt8) : List Char := ['%', hexUpper (b.toNat / 16), hexUpper (b.toNat % 16)]

/-- a text with every character that `keep` refuses written in bytes -/
def encode (keep : Char → Bool) (s : List Char) : List Char :=
  s.flatMap fun c => if keep c then [c] else (Utf8.encodeChar c).flatMap encodeByte

/-- the byte that two digits write -/
def pair (h l : UInt8) : Option UInt8 :=
  match hexValue (Char.ofNat h.toNat), hexValue (Char.ofNat l.toNat) with
  | some a, some b => some (UInt8.ofNat (16 * a + b))
  | _, _ => none

def decode : List UInt8 → List UInt8
  | [] => []
  | [a] => [a]
  | [a, b] => [a, b]
  | a :: h :: l :: s =>
    if a = sign then
      match pair h l with
      | some b => b :: decode s
      | none => a :: decode (h :: l :: s)
    else a :: decode (h :: l :: s)

theorem decode_triple (h l b : UInt8) (s : List UInt8) (hb : pair h l = some b) :
    decode (sign :: h :: l :: s) = b :: decode s := by
  rw [decode, if_pos rfl, hb]

theorem decode_plain (a : UInt8) (s : List UInt8) (h : a ≠ sign) :
    decode (a :: s) = a :: decode s := by
  match s with
  | [] => rfl
  | [b] => rfl
  | b :: c :: s => rw [decode, if_neg h]

end DirectoryClient.Percent
