import DirectoryClient.Proofs.Dn.Splitting
import DirectoryClient.Proofs.Text.Blank

/-!
# Writing a value and reading it back

* `unescapeBytes_escapeFrom`   a written value stands for the bytes of the value;
* `MayEnd`                     what may stand at the end of a value so that trimming leaves it;
* `unescapeValue_escapeFrom`   a written value is read back;
* `sealed_escapeFrom`          nothing in a written value separates.
-/

namespace DirectoryClient

open DirectoryClient.Text

/-! ## One character -/

theorem isSpecial_iff {c : Char} :
    isSpecial c = true ↔ c ∈ [',', '+', '"', '\\', '<', '>', ';', '='] := by
  simp [isSpecial, or_assoc]

theorem special_all : ([',', '+', '"', '\\', '<', '>', ';', '='].all fun c =>
    hexValue c == none && !isBlank c) = true := by decide

/-- A special character is neither a digit nor a blank. -/
theorem isSpecial_cases {c : Char} (h : isSpecial c = true) :
    hexValue c = none ∧ isBlank c = false := by
  simpa using List.all_eq_true.mp special_all c (isSpecial_iff.mp h)

/-- The ways in which a character is written. -/
theorem escapeChar_cases (first last : Bool) (c : Char) :
    (isSpecial c = true ∧ escapeChar first last c = ['\\', c]) ∨
      (c = Char.ofNat 0 ∧ escapeChar first last c = ['\\', '0', '0']) ∨
      (c = ' ' ∧ escapeChar first last c = ['\\', '2', '0']) ∨
      (c = '#' ∧ escapeChar first last c = ['\\', '2', '3']) ∨
      (isSpecial c = false ∧ (c = ' ' → first = false ∧ last = false) ∧
        escapeChar first last c = [c]) := by
  unfold escapeChar
  by_cases hs : isSpecial c = true
  · exact .inl ⟨hs, by rw [if_pos hs]⟩
  rw [if_neg hs]
  by_cases h0 : c.toNat = 0
  · exact .inr (.inl ⟨by rw [← h0, Char.ofNat_toNat], by rw [if_pos h0]⟩)
  rw [if_neg h0]
  by_cases hsp : (decide (c = ' ') && (first || last)) = true
  · refine .inr (.inr (.inl ⟨?_, by rw [if_pos hsp]⟩))
    exact of_decide_eq_true (Bool.and_eq_true_iff.mp hsp).1
  rw [if_neg hsp]
  by_cases hn : (decide (c = '#') && first) = true
  · refine .inr (.inr (.inr (.inl ⟨?_, by rw [if_pos hn]⟩)))
    exact of_decide_eq_true (Bool.and_eq_true_iff.mp hn).1
  rw [if_neg hn]
  refine .inr (.inr (.inr (.inr ⟨Bool.eq_false_iff.mpr hs, fun hc => ?_, rfl⟩)))
  simpa [hc] using hsp

/-! ## Bytes -/

theorem unescapeBytes_cons {c : Char} (h : c ≠ '\\') (s : List Char) :
    unescapeBytes (c :: s) = (unescapeBytes s).map (Utf8.encodeChar c ++ ·) := by
  simp [unescapeBytes, h]

theorem unescapeBytes_escaped {c : Char} (h : hexValue c = none) (s : List Char) :
    unescapeBytes ('\\' :: c :: s) = (unescapeBytes s).map (Utf8.encodeChar c ++ ·) := by
  cases s with
  | nil => simp [unescapeBytes]
  | cons d s =>
    have hp : hexPair c d = none := by rw [hexPair, h]
    rw [unescapeBytes, hp]

theorem unescapeBytes_hex {h l : Char} {b : UInt8} (hp : hexPair h l = some b) (s : List Char) :
    unescapeBytes ('\\' :: h :: l :: s) = (unescapeBytes s).map (b :: ·) := by
  rw [unescapeBytes, hp]

theorem unescapeBytes_escapeChar (first last : Bool) (c : Char) (s : List Char) :
    unescapeBytes (escapeChar first last c ++ s) =
      (unescapeBytes s).map (Utf8.encodeChar c ++ ·) := by
  rcases escapeChar_cases first last c with ⟨hc, he⟩ | ⟨rfl, he⟩ | ⟨rfl, he⟩ | ⟨rfl, he⟩ |
    ⟨hc, -, he⟩ <;> rw [he]
  · exact unescapeBytes_escaped (isSpecial_cases hc).1 s
  · exact unescapeBytes_hex (by decide) s
  · exact unescapeBytes_hex (by decide) s
  · exact unescapeBytes_hex (by decide) s
  · refine unescapeBytes_cons ?_ s
    rintro rfl
    exact absurd hc (by decide)

/-- A written value stands for the bytes of the value. -/
theorem unescapeBytes_escapeFrom (first : Bool) (v : List Char) :
    unescapeBytes (escapeFrom first v) = some (Utf8.encode v) := by
  induction v generalizing first with
  | nil => rfl
  | cons c v ih =>
    rw [escapeFrom, unescapeBytes_escapeChar, ih]
    rfl

/-! ## Ends -/

/-- whether a character may stand at the end of a value: trimming leaves it, or it is a space, which
is escaped there -/
def MayEnd (c : Char) : Prop := isBlank c = true → c = ' '

/-- A written value begins with a blank only if the value does, and not with a space. -/
theorem head?_escapeFrom {v : List Char} (h : ∀ c ∈ v.head?, MayEnd c) :
    ∀ c ∈ (escapeFrom true v).head?, isBlank c = false := by
  cases v with
  | nil => exact fun c hc => by cases hc
  | cons d v =>
    intro c hc
    rw [escapeFrom] at hc
    rcases escapeChar_cases true v.isEmpty d with ⟨-, he⟩ | ⟨-, he⟩ | ⟨-, he⟩ | ⟨-, he⟩ |
      ⟨-, hd, he⟩ <;> rw [he] at hc <;> obtain rfl := Option.some.inj hc
    · decide
    · decide
    · decide
    · decide
    · refine Bool.eq_false_iff.mpr fun hb => ?_
      exact absurd (hd (h d rfl hb)).1 (by decide)

theorem escapeChar_ne_nil (first last : Bool) (c : Char) : escapeChar first last c ≠ [] := by
  rcases escapeChar_cases first last c with ⟨-, he⟩ | ⟨-, he⟩ | ⟨-, he⟩ | ⟨-, he⟩ |
    ⟨-, -, he⟩ <;> rw [he] <;> exact List.cons_ne_nil _ _

theorem escapeFrom_ne_nil (first : Bool) (c : Char) (v : List Char) :
    escapeFrom first (c :: v) ≠ [] :=
  List.append_ne_nil_of_left_ne_nil (escapeChar_ne_nil first v.isEmpty c) _

/-- A written value ends with a blank only if the value does, and not with a space. -/
theorem getLast?_escapeFrom (first : Bool) (v : List Char) :
    ∀ c ∈ (escapeFrom first v).getLast?, isBlank c = false ∨ c ≠ ' ' ∧ c ∈ v.getLast? := by
  induction v generalizing first with
  | nil => exact fun c hc => by cases hc
  | cons d v ih =>
    cases v with
    | nil =>
      intro c hc
      rw [escapeFrom, escapeFrom, List.append_nil] at hc
      rcases escapeChar_cases first true d with ⟨hd, he⟩ | ⟨-, he⟩ | ⟨-, he⟩ | ⟨-, he⟩ |
        ⟨-, hd, he⟩ <;> rw [List.isEmpty_nil, he] at hc <;> obtain rfl := Option.some.inj hc
      · exact .inl (isSpecial_cases hd).2
      · exact .inl (by decide)
      · exact .inl (by decide)
      · exact .inl (by decide)
      · exact .inr ⟨fun h => absurd (hd h).2 (by decide), rfl⟩
    | cons e v =>
      intro c hc
      rw [escapeFrom, List.getLast?_append_of_ne_nil _ (escapeFrom_ne_nil false e v)] at hc
      exact ih false c hc

/-! ## Whole values -/

/-- Trimming leaves a written value as it is. -/
theorem trimValue_escapeFrom {v : List Char} (h : ∀ c ∈ v.head?, MayEnd c) :
    trimValue (escapeFrom true v) = escapeFrom true v := by
  have hspace : ∀ c ∈ (escapeFrom true v).getLast?, (c == ' ') = false := by
    intro c hc
    rcases getLast?_escapeFrom true v c hc with hb | ⟨hne, -⟩
    · refine beq_eq_false_iff_ne.mpr ?_
      rintro rfl
      exact absurd hb (by decide)
    · exact beq_eq_false_iff_ne.mpr hne
  have hdrop := dropEndWhile_eq_self hspace
  simp [trimValue, trimStart_eq_self (head?_escapeFrom h), hdrop]

/-- **A written value is read back**, unless it begins with a blank that is no space. -/
theorem unescapeValue_escapeFrom {v : List Char} (h : ∀ c ∈ v.head?, MayEnd c) :
    unescapeValue (escapeFrom true v) = .ok (String.ofList v) := by
  rw [unescapeValue, trimValue_escapeFrom h, unescapeBytes_escapeFrom]
  dsimp only
  rw [Utf8.decode_encode]

section
variable {separator : Char → Bool} (h : ∀ c, separator c = true → isSpecial c = true)
include h

/-- Nothing in a written character separates. -/
theorem sealed_escapeChar (first last : Bool) (c : Char) :
    Sealed separator (escapeChar first last c) := by
  have hplain : ∀ c, isSpecial c = false → separator c = false := fun c hc =>
    Bool.eq_false_iff.mpr fun hs => by rw [h c hs] at hc; cases hc
  rcases escapeChar_cases first last c with ⟨-, he⟩ | ⟨-, he⟩ | ⟨-, he⟩ | ⟨-, he⟩ |
    ⟨hc, -, he⟩ <;> rw [he]
  · exact .escaped c .nil
  · exact .escaped '0' (.plain (by decide) (hplain '0' rfl) .nil)
  · exact .escaped '2' (.plain (by decide) (hplain '0' rfl) .nil)
  · exact .escaped '2' (.plain (by decide) (hplain '3' rfl) .nil)
  · refine .plain ?_ (hplain c hc) .nil
    rintro rfl
    exact absurd hc (by decide)

/-- Nothing in a written value separates. -/
theorem sealed_escapeFrom (first : Bool) (v : List Char) :
    Sealed separator (escapeFrom first v) := by
  induction v generalizing first with
  | nil => exact .nil
  | cons c v ih => exact (sealed_escapeChar h first v.isEmpty c).append (ih false)

end

end DirectoryClient
