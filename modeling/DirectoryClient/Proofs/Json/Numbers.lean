import DirectoryClient.Json.Printer
import DirectoryClient.Json.Reader
import Mathlib.Data.List.Basic
import Mathlib.Data.List.TakeWhile
import Mathlib.Data.Option.Basic

/-!
# Written numbers are read back

* `Ends`                   what may follow a value in a text;
* `readNumber_append`      a number is read without regard to what follows it;
* `readNumber_intText`     whole numbers of 64 bits are read back;
* `ReadsBack`              a floating-point number whose text is read as the same number.
-/

namespace DirectoryClient.Json

/-- What may follow a value: nothing, a comma, or the end of an array or of an object. -/
inductive Ends : List Char → Prop
  | nil : Ends []
  | comma (s : List Char) : Ends (',' :: s)
  | bracket (s : List Char) : Ends (']' :: s)
  | brace (s : List Char) : Ends ('\x7d' :: s)

/-- What follows a part of a text that was read stays behind it. -/
def before {α : Type} (s : List Char) (a : α × List Char) : α × List Char := (a.1, a.2 ++ s)

/-- a number after its sign -/
def readMagnitude (negative : Bool) (s : List Char) : Option (Json × List Char) := do
  let whole := digitValues (s.takeWhile Char.isDigit)
  guard (!whole.isEmpty && (whole.head? != some 0 || whole.length == 1))
  let (fraction, s) ← readFraction (s.dropWhile Char.isDigit)
  let (exponent, s) ← readExponent s
  let value ← Numeral.value
    ⟨negative, whole, fraction, exponent.getD 0, fraction.isEmpty && exponent.isNone⟩
  return (value, s)

theorem readNumber_minus (s : List Char) : readNumber ('-' :: s) = readMagnitude true s := rfl

theorem readNumber_of_ne {c : Char} (hc : c ≠ '-') (s : List Char) :
    readNumber (c :: s) = readMagnitude false (c :: s) := by
  unfold readNumber readMagnitude
  split
  simp_all

/-! ## What follows is left alone -/

section
variable {s : List Char} (hs : Ends s)
include hs

/-- Digits end where a value may end. -/
theorem digits_append (t : List Char) :
    (t ++ s).takeWhile Char.isDigit = t.takeWhile Char.isDigit ∧
      (t ++ s).dropWhile Char.isDigit = t.dropWhile Char.isDigit ++ s := by
  induction t with
  | nil => cases hs <;> exact ⟨rfl, rfl⟩
  | cons c t ih =>
    obtain ⟨htake, hdrop⟩ := ih
    rw [List.cons_append]
    cases hc : c.isDigit with
    | true =>
      rw [List.takeWhile_cons_of_pos hc, List.takeWhile_cons_of_pos hc,
        List.dropWhile_cons_of_pos hc, List.dropWhile_cons_of_pos hc, htake, hdrop]
      exact ⟨rfl, rfl⟩
    | false =>
      have hn : ¬ c.isDigit = true := by rw [hc]; exact Bool.false_ne_true
      rw [List.takeWhile_cons_of_neg hn, List.takeWhile_cons_of_neg hn,
        List.dropWhile_cons_of_neg hn, List.dropWhile_cons_of_neg hn]
      exact ⟨rfl, rfl⟩

theorem readFraction_append (t : List Char) :
    readFraction (t ++ s) = (readFraction t).map (before s) := by
  rcases t with _ | ⟨c, t⟩
  · cases hs <;> rfl
  · by_cases hc : c = '.'
    · subst hc
      obtain ⟨htake, hdrop⟩ := digits_append hs t
      rw [List.cons_append, readFraction, readFraction, htake, hdrop]
      cases digitValues (t.takeWhile Char.isDigit) <;> rfl
    · rw [List.cons_append, readFraction, readFraction]
      · rfl
      all_goals simp [hc]

theorem exponentSign_append (t : List Char) :
    exponentSign (t ++ s) = before s (exponentSign t) := by
  rcases t with _ | ⟨c, t⟩
  · cases hs <;> rfl
  · rw [List.cons_append, exponentSign.eq_def, exponentSign.eq_def]
    split <;> simp_all [before]

theorem readExponent_append (t : List Char) :
    readExponent (t ++ s) = (readExponent t).map (before s) := by
  rcases t with _ | ⟨c, t⟩
  · cases hs <;> rfl
  · rw [List.cons_append, readExponent, readExponent, exponentSign_append hs t]
    split
    · obtain ⟨htake, hdrop⟩ := digits_append hs (exponentSign t).2
      simp only [before]
      rw [htake, hdrop]
      cases digitValues ((exponentSign t).2.takeWhile Char.isDigit) <;> rfl
    · rfl

theorem readMagnitude_append (negative : Bool) (t : List Char) :
    readMagnitude negative (t ++ s) = (readMagnitude negative t).map (before s) := by
  obtain ⟨htake, hdrop⟩ := digits_append hs t
  unfold readMagnitude
  simp only [htake, hdrop, readFraction_append hs, readExponent_append hs, before,
    Option.bind_eq_bind, Option.bind_map, Option.map_bind, Option.pure_def, Option.map_some,
    Function.comp_def]

/-- A number is read without regard to what follows it. -/
theorem readNumber_append (t : List Char) :
    readNumber (t ++ s) = (readNumber t).map (before s) := by
  rcases t with _ | ⟨c, t⟩
  · cases hs <;> rfl
  · rw [List.cons_append]
    by_cases hc : c = '-'
    · subst hc
      rw [readNumber_minus, readNumber_minus, readMagnitude_append hs]
    · rw [readNumber_of_ne hc, readNumber_of_ne hc, ← List.cons_append, readMagnitude_append hs]

end

/-! ## Whole numbers -/

theorem all_toDigits (n : Nat) : ∀ c ∈ Nat.toDigits 10 n, c.isDigit = true :=
  fun _ hc => Nat.isDigit_of_mem_toDigits (by decide) (by decide) hc

theorem digits_toDigits (n : Nat) :
    (Nat.toDigits 10 n).takeWhile Char.isDigit = Nat.toDigits 10 n ∧
      (Nat.toDigits 10 n).dropWhile Char.isDigit = [] :=
  ⟨List.takeWhile_eq_self_iff.mpr (all_toDigits n), List.dropWhile_eq_nil_iff.mpr (all_toDigits n)⟩

theorem ofDigits_toDigits (n : Nat) : ofDigits (digitValues (Nat.toDigits 10 n)) = n := by
  rw [ofDigits, digitValues, List.foldl_map]
  exact (Nat.ofDigitChars_eq_foldl.symm).trans Nat.ofDigitChars_ten_toDigits

/-- No number but zero is written with a zero in front. -/
theorem head?_toDigits {n : Nat} (hn : 0 < n) :
    (digitValues (Nat.toDigits 10 n)).head? ≠ some 0 := by
  induction n using Nat.strongRecOn with
  | ind n ih =>
    by_cases h : n < 10
    · rw [Nat.toDigits_of_lt_base h]
      intro h0
      have hzero : n.digitChar.toNat - 48 = 0 := Option.some.inj h0
      rw [Nat.toNat_digitChar_sub_48_of_lt_ten h] at hzero
      omega
    · have hrest := ih (n / 10) (by omega) (by omega)
      rw [Nat.toDigits_of_base_le (by decide) (by omega), digitValues, List.map_append]
      rwa [List.head?_append_of_ne_nil]
      exact fun h => Nat.toDigits_ne_nil (List.map_eq_nil_iff.mp h)

theorem readMagnitude_toDigits (negative : Bool) (n : Nat) :
    readMagnitude negative (Nat.toDigits 10 n) =
      (Numeral.value ⟨negative, digitValues (Nat.toDigits 10 n), [], 0, true⟩).map (·, []) := by
  obtain ⟨htake, hdrop⟩ := digits_toDigits n
  have hne : (digitValues (Nat.toDigits 10 n)).isEmpty = false := by
    rw [digitValues, List.isEmpty_map]
    exact List.isEmpty_eq_false_iff.mpr Nat.toDigits_ne_nil
  have hhead : ((digitValues (Nat.toDigits 10 n)).head? != some 0 ||
      (digitValues (Nat.toDigits 10 n)).length == 1) = true := by
    rcases Nat.eq_zero_or_pos n with rfl | hn
    · rfl
    · rw [bne_iff_ne.mpr (head?_toDigits hn), Bool.true_or]
  simp only [readMagnitude, htake, hdrop, hne, hhead]
  show (Numeral.value ⟨negative, digitValues (Nat.toDigits 10 n), [], 0, true⟩).bind
    (fun value => some (value, [])) = _
  rw [Option.map_eq_bind]
  rfl

/-- a whole number of 64 bits, with a sign or without -/
def FitsWord (n : Int) : Prop := -(UInt64.size : Int) ≤ 2 * n ∧ n < UInt64.size

theorem fitsWord_natCast {n : Nat} (h : n < UInt64.size) : FitsWord n := ⟨by omega, by omega⟩

/-- **Every whole number of 64 bits is read back.** -/
theorem readNumber_intText {n : Int} (h : FitsWord n) :
    readNumber (intText n) = some (.int n, []) := by
  obtain ⟨hlow, hhigh⟩ := h
  have hsize : UInt64.size = 2 ^ 64 := rfl
  unfold intText
  by_cases hn : n < 0
  · have hvalue : Numeral.value ⟨true, digitValues (Nat.toDigits 10 n.natAbs), [], 0, true⟩ =
        some (.int (-(n.natAbs : Int))) := by
      have hm : 0 < n.natAbs ∧ 2 * n.natAbs ≤ UInt64.size := by omega
      simp [Numeral.value, ofDigits_toDigits, hm.1, hm.2]
    have habs : -(n.natAbs : Int) = n := by omega
    rw [if_pos hn, List.singleton_append, readNumber_minus, readMagnitude_toDigits, hvalue, habs]
    rfl
  · have hvalue : Numeral.value ⟨false, digitValues (Nat.toDigits 10 n.natAbs), [], 0, true⟩ =
        some (.int (n.natAbs : Int)) := by
      have hm : n.natAbs < UInt64.size := by omega
      simp [Numeral.value, ofDigits_toDigits, hm]
    have habs : (n.natAbs : Int) = n := by omega
    obtain ⟨c, r, hc⟩ := List.exists_cons_of_ne_nil (Nat.toDigits_ne_nil (n := n.natAbs) (b := 10))
    have hminus : c ≠ '-' := by
      rintro rfl
      exact absurd (all_toDigits n.natAbs '-' (by rw [hc]; exact List.mem_cons_self)) (by decide)
    rw [if_neg hn, List.nil_append, hc, readNumber_of_ne hminus, ← hc, readMagnitude_toDigits,
      hvalue, habs]
    rfl

/-! ## Floating-point numbers -/

/-- The text of a floating-point number is read, to its end, as the same number.  This is not so for
what is not finite. -/
def ReadsBack (x : Float) : Prop := readNumber (floatText x) = some (.float x, [])

theorem readsBack_two : ReadsBack 2.0 := by
  have htext : floatText 2.0 = ['2', '.', '0'] := by decide +kernel
  have hparts : readMagnitude false ['2', '.', '0'] =
      (Numeral.value ⟨false, [2], [0], 0, false⟩).map (·, []) := rfl
  -- twenty, and one place less
  have hscale : scale 20 (-1) = some 2.0 := by
    have hten : (UInt64.ofNat 20).toFloat / powerOfTen 1 = 2.0 := by decide +kernel
    show some (scaleDown (UInt64.ofNat 20).toFloat 1) = some 2.0
    rw [scaleDown, if_pos (by decide), hten]
  have hvalue : Numeral.value ⟨false, [2], [0], 0, false⟩ = some (.float 2.0) := by
    show (scale 20 (-1)).map Json.float = some (.float 2.0)
    rw [hscale]
    rfl
  rw [ReadsBack, htext, readNumber_of_ne (by decide), hparts, hvalue]
  rfl

/-- A number begins with a digit or a minus sign. -/
theorem exists_of_readNumber {s : List Char} {a : Json × List Char}
    (h : readNumber s = some a) : ∃ c r, s = c :: r ∧ (c = '-' ∨ c.isDigit = true) := by
  rcases s with _ | ⟨c, s⟩
  · cases h
  · refine ⟨c, s, rfl, ?_⟩
    by_cases hc : c = '-'
    · exact .inl hc
    · right
      rw [readNumber_of_ne hc] at h
      by_contra hd
      rw [readMagnitude, List.takeWhile_cons_of_neg hd] at h
      cases h

end DirectoryClient.Json
