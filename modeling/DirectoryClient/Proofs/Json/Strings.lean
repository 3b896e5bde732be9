import DirectoryClient.Json.Printer
import DirectoryClient.Json.Reader

/-!
# Written strings are read back

* `readString_code`         a character that is written as its number;
* `readString_escape`       a character in the way it is written;
* `readString_stringText`   a whole string.
-/

namespace DirectoryClient.Json

open DirectoryClient.Text

variable {seen s : List Char}

/-- A character that needs no escape stands for itself. -/
theorem readString_plain {c : Char} (hq : c ≠ '"') (hb : c ≠ '\\') (h : ¬ c.toNat < 0x20) :
    readString seen (c :: s) = readString (c :: seen) s := by
  rw [readString]
  · exact if_neg h
  all_goals simp [hq, hb]

/-- A backslash and a letter, unless a number follows, stand for what the letter means. -/
theorem readString_letter {c x : Char} (hc : c ≠ 'u') (h : escapeValue c = some x) :
    readString seen ('\\' :: c :: s) = readString (x :: seen) s := by
  rw [readString]
  · rw [h]
  all_goals simp [hc]

/-- A character may be written as its number, unless that is half of a pair. -/
theorem readString_code {a b c d : Char} {n : Nat} (h : fourDigits a b c d = some n)
    (hn : ¬ (0xD800 ≤ n ∧ n < 0xE000)) :
    readString seen ('\\' :: 'u' :: a :: b :: c :: d :: s) =
      readString (Char.ofNat n :: seen) s := by
  by_cases hs : ∃ e f g i t, s = '\\' :: 'u' :: e :: f :: g :: i :: t
  · -- another number follows, and the two might have been a pair
    obtain ⟨e, f, g, i, t, rfl⟩ := hs
    rw [readString, h]
    exact if_neg hn
  · rw [readString, h]
    · exact if_neg hn
    · intro e f g i t ht
      exact hs ⟨e, f, g, i, t, ht⟩

theorem fourDigits_control {n : Nat} (hn : n < 0x20) :
    fourDigits '0' '0' (hexDigit (n / 16)) (hexDigit (n % 16)) = some n := by
  have hhigh : hexValue (hexDigit (n / 16)) = some (n / 16) := hexValue_hexDigit ⟨n / 16, by omega⟩
  have hlow : hexValue (hexDigit (n % 16)) = some (n % 16) := hexValue_hexDigit ⟨n % 16, by omega⟩
  have hzero : hexValue '0' = some 0 := by decide
  have hsum : 4096 * 0 + 256 * 0 + 16 * (n / 16) + n % 16 = n := by omega
  unfold fourDigits
  rw [hzero, hhigh, hlow]
  exact congrArg some hsum

/-- However a character is written, it is read back. -/
theorem readString_escape (c : Char) :
    readString seen (escape c ++ s) = readString (c :: seen) s := by
  unfold escape
  split
  case h_1 => exact readString_letter (by decide) rfl
  case h_2 => exact readString_letter (by decide) rfl
  case h_3 => exact readString_letter (by decide) rfl
  case h_4 => exact readString_letter (by decide) rfl
  case h_5 => exact readString_letter (by decide) rfl
  case h_6 hq hb hn hr ht =>
    split
    case isTrue h8 =>
      obtain rfl : Char.ofNat 8 = c := by rw [← h8, Char.ofNat_toNat]
      exact readString_letter (by decide) rfl
    case isFalse h8 =>
      split
      case isTrue h12 =>
        obtain rfl : Char.ofNat 12 = c := by rw [← h12, Char.ofNat_toNat]
        exact readString_letter (by decide) rfl
      case isFalse h12 =>
        split
        case isTrue hlow =>
          refine (readString_code (fourDigits_control hlow) (by omega)).trans ?_
          rw [Char.ofNat_toNat]
          rfl
        case isFalse hlow => exact readString_plain hq hb hlow

theorem readString_flatMap_escape (cs : List Char) :
    readString seen (cs.flatMap escape ++ '"' :: s) =
      some (String.ofList (seen.reverse ++ cs), s) := by
  induction cs generalizing seen with
  | nil => rw [List.flatMap_nil, List.nil_append, readString, List.append_nil]
  | cons c cs ih =>
    rw [List.flatMap_cons, List.append_assoc, readString_escape, ih, List.reverse_cons,
      List.append_assoc]
    rfl

/-- **Every string is read back.** -/
theorem readString_stringText (t : String) (s : List Char) :
    ∃ r, stringText t ++ s = '"' :: r ∧ readString [] r = some (t, s) := by
  refine ⟨t.toList.flatMap escape ++ '"' :: s, ?_, ?_⟩
  · simp [stringText]
  · rw [readString_flatMap_escape, List.reverse_nil, List.nil_append, String.ofList_toList]

end DirectoryClient.Json
