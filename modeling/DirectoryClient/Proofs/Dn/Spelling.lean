import DirectoryClient.Proofs.Dn.Joining
import DirectoryClient.Proofs.Dn.Positions

/-!
# The spellings of a name

A character of a value may be written as it is, behind a backslash or by the numbers of its bytes,
as the writer likes, and spaces may stand around the separators and the equals signs.

* `SpellsBytes`, `SpellsChar`, `SpellsValue`   the ways to write bytes, a character, a value;
* `Ava.Spelled`, `Rdn.Spelled`, `Dn.Spelled`   the ways to write an assertion, a relative name and a
                                  name;
* `SpellsValue.unescapeBytes_eq`  every way to write a value stands for the bytes of the value;
* `Dn.parse_spelled`              every spelling of a name is read as that name.
-/

namespace DirectoryClient

open DirectoryClient.Text

/-! ## Spellings -/

/-- a digit for a number below sixteen, in either letter case -/
def SpellsDigit (n : Nat) (d : Char) : Prop := d = hexDigit n ∨ d = hexUpper n

/-- bytes by their numbers, each behind a backslash -/
inductive SpellsBytes : List UInt8 → List Char → Prop
  | nil : SpellsBytes [] []
  | cons {b : UInt8} {high low : Char} (hhigh : SpellsDigit (b.toNat / 16) high)
      (hlow : SpellsDigit (b.toNat % 16) low) {bytes : List UInt8} {s : List Char}
      (h : SpellsBytes bytes s) : SpellsBytes (b :: bytes) ('\\' :: high :: low :: s)

/-- one character of a value; `atEnd` tells whether it is the first or the last one -/
inductive SpellsChar (atEnd : Bool) (c : Char) : List Char → Prop
  | literal (hc : c ∉ [',', ';', '+', '\\']) (hend : atEnd = true → isBlank c = false) :
      SpellsChar atEnd c [c]
  | escaped (hhex : isHex c = false) (hb : isBlank c = false) : SpellsChar atEnd c ['\\', c]
  | numbered {s : List Char} (h : SpellsBytes (Utf8.encodeChar c) s) : SpellsChar atEnd c s

/-- the characters of a value, each in its own way -/
inductive SpellsValue : Bool → List Char → List Char → Prop
  | nil (first : Bool) : SpellsValue first [] []
  | cons {first : Bool} {c : Char} {v s t : List Char} (hc : SpellsChar (first || v.isEmpty) c s)
      (hv : SpellsValue false v t) : SpellsValue first (c :: v) (s ++ t)

/-- a text with spaces around it -/
def padded (n m : Nat) (s : List Char) : List Char :=
  List.replicate n ' ' ++ (s ++ List.replicate m ' ')

/-- an assertion with spaces around its type and around its value -/
inductive Ava.Spelled (a : Ava) : List Char → Prop
  | intro (before behind gap rest : Nat) (v : List Char) (ht : IsType a.type)
      (hv : SpellsValue true a.value.toList v) :
      a.Spelled (padded before behind a.type.toList ++ '=' :: padded gap rest v)

def Rdn.Spelled : Rdn → List Char → Prop := Joined Ava.Spelled ['+']

def Dn.Spelled : List Rdn → List Char → Prop := Joined Rdn.Spelled [',', ';']

/-! ## Digits -/

theorem hexValue_of_spellsDigit {n : Nat} (hn : n < 16) {d : Char} (h : SpellsDigit n d) :
    hexValue d = some n := by
  rcases h with rfl | rfl
  · exact hexValue_hexDigit ⟨n, hn⟩
  · exact hexValue_hexUpper ⟨n, hn⟩

theorem hexPair_of_spellsDigit {b : UInt8} {high low : Char}
    (hhigh : SpellsDigit (b.toNat / 16) high) (hlow : SpellsDigit (b.toNat % 16) low) :
    hexPair high low = some b := by
  have hb : b.toNat < 256 := b.toNat_lt
  have hsum : 16 * (b.toNat / 16) + b.toNat % 16 = b.toNat := by omega
  unfold hexPair
  rw [hexValue_of_spellsDigit (by omega) hhigh, hexValue_of_spellsDigit (by omega) hlow]
  dsimp only
  rw [hsum, UInt8.ofNat_toNat]

/-- A digit means nothing else. -/
theorem not_special_of_spellsDigit {n : Nat} (hn : n < 16) {d : Char} (h : SpellsDigit n d) :
    isSpecial d = false ∧ isBlank d = false := by
  have hd := hexValue_of_spellsDigit hn h
  constructor
  · apply Bool.eq_false_iff.mpr
    intro hs
    rw [(isSpecial_cases hs).1] at hd
    cases hd
  · apply Bool.eq_false_iff.mpr
    intro hb
    rw [hexValue_of_isBlank hb] at hd
    cases hd

/-- A character that is written as it is neither separates nor escapes. -/
theorem literal_cases {c : Char} (h : c ∉ [',', ';', '+', '\\']) :
    c ≠ '\\' ∧ c ∉ [',', ';', '+'] := by
  simp only [List.mem_cons, List.not_mem_nil, or_false, not_or] at h ⊢
  obtain ⟨hcomma, hsemicolon, hplus, hb⟩ := h
  exact ⟨hb, hcomma, hsemicolon, hplus⟩

theorem isSpecial_of_mem {c : Char} (h : c ∈ [',', ';', '+']) : isSpecial c = true := by
  simp only [List.mem_cons, List.not_mem_nil, or_false] at h
  rcases h with rfl | rfl | rfl <;> rfl

/-! ## Bytes -/

namespace SpellsBytes

variable {bytes : List UInt8} {s : List Char}

theorem unescapeBytes_append (h : SpellsBytes bytes s) (t : List Char) :
    unescapeBytes (s ++ t) = (unescapeBytes t).map (bytes ++ ·) := by
  induction h with
  | nil => simp
  | cons hhigh hlow _ ih =>
    simp only [List.cons_append]
    rw [unescapeBytes_hex (hexPair_of_spellsDigit hhigh hlow), ih, Option.map_map]
    rfl

theorem isSealed (h : SpellsBytes bytes s) {separator : Char → Bool}
    (hs : ∀ c, separator c = true → isSpecial c = true) : Sealed separator s := by
  induction h with
  | nil => exact .nil
  | @cons b high low hhigh hlow _ _ _ ih =>
    have hlt : b.toNat % 16 < 16 := Nat.mod_lt _ (by omega)
    have hplain := (not_special_of_spellsDigit hlt hlow).1
    refine .escaped high (.plain ?_ ?_ ih)
    · rintro rfl
      exact absurd hplain (by decide)
    · apply Bool.eq_false_iff.mpr
      intro hsep
      rw [hs _ hsep] at hplain
      cases hplain

theorem head? (h : SpellsBytes bytes s) : ∀ d ∈ s.head?, isBlank d = false := by
  cases h with
  | nil => simp
  | cons =>
    intro d hd
    obtain rfl := Option.some.inj hd
    decide

theorem getLast? (h : SpellsBytes bytes s) : ∀ d ∈ s.getLast?, isBlank d = false := by
  induction h with
  | nil => simp
  | @cons b high low hhigh hlow bytes s h ih =>
    have hlt : b.toNat % 16 < 16 := Nat.mod_lt _ (by omega)
    intro d hd
    cases s with
    | nil =>
      obtain rfl : low = d := Option.some.inj hd
      exact (not_special_of_spellsDigit hlt hlow).2
    | cons e s => exact ih d hd

theorem ne_nil (h : SpellsBytes bytes s) (hne : bytes ≠ []) : s ≠ [] := by
  cases h with
  | nil => exact absurd rfl hne
  | cons => simp

end SpellsBytes

/-! ## Characters -/

theorem encodeChar_ne_nil (c : Char) : Utf8.encodeChar c ≠ [] := by
  unfold Utf8.encodeChar
  dsimp only
  split
  · simp
  · split
    · simp
    · split <;> simp

namespace SpellsChar

variable {atEnd : Bool} {c : Char} {s : List Char}

theorem ne_nil (h : SpellsChar atEnd c s) : s ≠ [] := by
  cases h with
  | literal => simp
  | escaped => simp
  | numbered h => exact h.ne_nil (encodeChar_ne_nil c)

theorem unescapeBytes_append (h : SpellsChar atEnd c s) (t : List Char) :
    unescapeBytes (s ++ t) = (unescapeBytes t).map (Utf8.encodeChar c ++ ·) := by
  cases h with
  | literal hc => exact unescapeBytes_cons (literal_cases hc).1 t
  | escaped hhex =>
    refine unescapeBytes_escaped ?_ t
    simpa [isHex] using hhex
  | numbered h => exact h.unescapeBytes_append t

/-- Nothing in it separates. -/
theorem isSealed (h : SpellsChar atEnd c s) {separator : Char → Bool}
    (hs : ∀ c, separator c = true → c ∈ [',', ';', '+']) : Sealed separator s := by
  cases h with
  | literal hc =>
    obtain ⟨hb, hsep⟩ := literal_cases hc
    exact .plain hb (Bool.eq_false_iff.mpr fun h => hsep (hs c h)) .nil
  | escaped => exact .escaped c .nil
  | numbered h => exact h.isSealed fun d hd => isSpecial_of_mem (hs d hd)

theorem head? (h : SpellsChar true c s) : ∀ d ∈ s.head?, isBlank d = false := by
  cases h with
  | literal _ hend =>
    intro d hd
    obtain rfl := Option.some.inj hd
    exact hend rfl
  | escaped =>
    intro d hd
    obtain rfl := Option.some.inj hd
    decide
  | numbered h => exact h.head?

theorem getLast? (h : SpellsChar true c s) : ∀ d ∈ s.getLast?, isBlank d = false := by
  cases h with
  | literal _ hend =>
    intro d hd
    obtain rfl := Option.some.inj hd
    exact hend rfl
  | escaped _ hb =>
    intro d hd
    obtain rfl := Option.some.inj hd
    exact hb
  | numbered h => exact h.getLast?

end SpellsChar

/-! ## Values -/

namespace SpellsValue

variable {first : Bool} {v s : List Char}

/-- Every way to write a value stands for the bytes of the value. -/
theorem unescapeBytes_eq (h : SpellsValue first v s) :
    unescapeBytes s = some (Utf8.encode v) := by
  induction h with
  | nil => rfl
  | cons hc _ ih =>
    rw [hc.unescapeBytes_append, ih]
    rfl

theorem isSealed (h : SpellsValue first v s) {separator : Char → Bool}
    (hs : ∀ c, separator c = true → c ∈ [',', ';', '+']) : Sealed separator s := by
  induction h with
  | nil => exact .nil
  | cons hc _ ih => exact (hc.isSealed hs).append ih

theorem endsEscaping_eq (h : SpellsValue first v s) : endsEscaping s = false := by
  have hsealed : Sealed (fun _ => false) s := h.isSealed nofun
  exact endsEscaping_of_sealed hsealed

theorem head? (h : SpellsValue true v s) : ∀ d ∈ s.head?, isBlank d = false := by
  cases h with
  | nil => simp
  | cons hc _ =>
    rw [List.head?_append_of_ne_nil _ hc.ne_nil]
    exact SpellsChar.head? hc

theorem ne_nil (h : SpellsValue first v s) (hne : v ≠ []) : s ≠ [] := by
  cases h with
  | nil => exact absurd rfl hne
  | cons hc _ => exact List.append_ne_nil_of_left_ne_nil hc.ne_nil _

theorem getLast? (h : SpellsValue first v s) : ∀ d ∈ s.getLast?, isBlank d = false := by
  induction h with
  | nil => simp
  | @cons first c v s t hc hv ih =>
    cases v with
    | nil =>
      cases hv
      rw [List.append_nil]
      rw [List.isEmpty_nil, Bool.or_true] at hc
      exact hc.getLast?
    | cons d v =>
      rw [List.getLast?_append_of_ne_nil _ (hv.ne_nil (List.cons_ne_nil d v))]
      exact ih

end SpellsValue

/-! ## Spaces -/

theorem isBlank_of_mem_spaces {n : Nat} : ∀ c ∈ List.replicate n ' ', isBlank c = true := by
  intro c hc
  rw [List.eq_of_mem_replicate hc]
  exact isBlank_space

/-- What is not blank in a padded text is in the text. -/
theorem mem_of_mem_padded {n m : Nat} {s : List Char} {c : Char} (h : c ∈ padded n m s)
    (hb : isBlank c = false) : c ∈ s := by
  unfold padded at h
  rcases List.mem_append.mp h with h | h
  · rw [isBlank_of_mem_spaces c h] at hb
    cases hb
  · rcases List.mem_append.mp h with h | h
    · exact h
    · rw [isBlank_of_mem_spaces c h] at hb
      cases hb

section
variable {s : List Char} (hhead : ∀ c ∈ s.head?, isBlank c = false)
  (hlast : ∀ c ∈ s.getLast?, isBlank c = false)
include hhead hlast

theorem trim_padded (n m : Nat) : trim (padded n m s) = s := by
  unfold padded
  rw [trim_blanks_append isBlank_of_mem_spaces, trim_append_blanks hlast isBlank_of_mem_spaces]
  exact trimStart_eq_self hhead

/-- Reading a value takes away the spaces around it. -/
theorem trimValue_padded (hescape : endsEscaping s = false) (n m : Nat) :
    trimValue (padded n m s) = s := by
  have hstart : trimStart (padded n m s) = trimStart (s ++ List.replicate m ' ') :=
    trimStart_blanks_append isBlank_of_mem_spaces _
  have hsame : trimValue (padded n m s) = trimValue (s ++ List.replicate m ' ') := by
    unfold trimValue
    rw [hstart]
  rw [hsame]
  by_cases hne : s = []
  · have hnil : trimStart (List.replicate m ' ') = [] :=
      List.dropWhile_eq_nil_iff.mpr isBlank_of_mem_spaces
    unfold trimValue
    rw [hne, List.nil_append, hnil]
    rfl
  · have hspaces : Text.dropEndWhile (· == ' ') (List.replicate m ' ') = [] := by
      apply List.rdropWhile_eq_nil_iff.mpr
      intro c hc
      rw [List.eq_of_mem_replicate hc]
      rfl
    rw [trimValue_append_blanks hescape hlast isBlank_of_mem_spaces hne, hspaces, List.append_nil]
    exact trimStart_eq_self hhead

end

/-- A value is read from each of its spellings. -/
theorem unescapeValue_spelled {v s : List Char} (h : SpellsValue true v s) (n m : Nat) :
    unescapeValue (padded n m s) = .ok (String.ofList v) := by
  unfold unescapeValue
  rw [trimValue_padded h.head? h.getLast? h.endsEscaping_eq, h.unescapeBytes_eq]
  dsimp only
  rw [Utf8.decode_encode]

/-! ## Assertions -/

namespace Ava.Spelled

variable {a : Ava} {s : List Char}

theorem trim_padded_type {type : String} (h : IsType type) (n m : Nat) :
    trim (padded n m type.toList) = type.toList := by
  have hblank : ∀ c ∈ type.toList, isBlank c = false := by
    intro c hc
    exact (isTypeChar_cases (h.chars c hc)).1
  apply trim_padded
  · intro c hc
    exact hblank c (List.mem_of_mem_head? hc)
  · intro c hc
    exact hblank c (List.mem_of_mem_getLast? hc)

theorem parseAva_eq (h : a.Spelled s) : parseAva s = .ok a := by
  obtain ⟨before, behind, gap, rest, v, ht, hv⟩ := h
  have hequals : '=' ∉ padded before behind a.type.toList := by
    intro hmem
    exact absurd (ht.chars _ (mem_of_mem_padded hmem (by decide))) (by decide)
  apply parseAva_eq_ok_iff.mpr
  refine ⟨_, _, cutAtEquals_append hequals _, ?_, a.value, ?_, ?_⟩
  · rw [trim_padded_type ht]
    simpa [ht.ne_nil] using ht.chars
  · rw [unescapeValue_spelled hv, String.ofList_toList]
  · rw [trim_padded_type ht, String.ofList_toList]

theorem isSealed_padded {separator : Char → Bool}
    (hs : ∀ c, separator c = true → c ∈ [',', ';', '+']) {s : List Char}
    (h : Sealed separator s) (n m : Nat) : Sealed separator (padded n m s) := by
  have hspaces (n : Nat) : Sealed separator (List.replicate n ' ') :=
    sealed_blanks (fun c hc => isSpecial_of_mem (hs c hc)) isBlank_of_mem_spaces
  exact (hspaces n).append (h.append (hspaces m))

/-- Nothing in an assertion separates. -/
theorem isSealed (h : a.Spelled s) {separator : Char → Bool}
    (hs : ∀ c, separator c = true → c ∈ [',', ';', '+']) : Sealed separator s := by
  obtain ⟨before, behind, gap, rest, v, ht, hv⟩ := h
  have hplain {c : Char} (hc : c ∉ [',', ';', '+']) : separator c = false :=
    Bool.eq_false_iff.mpr fun hsep => hc (hs c hsep)
  have htype : Sealed separator a.type.toList := by
    apply Sealed.of_forall
    intro c hc
    have hspecial := (isTypeChar_cases (ht.chars c hc)).2.1
    constructor
    · rintro rfl
      exact absurd hspecial (by decide)
    · apply hplain
      intro hmem
      rw [isSpecial_of_mem hmem] at hspecial
      cases hspecial
  have hvalue := isSealed_padded hs (hv.isSealed hs) gap rest
  exact (isSealed_padded hs htype before behind).append
    (.plain (by decide) (hplain (by decide)) hvalue)

theorem all_isBlank (h : a.Spelled s) : s.all isBlank = false := by
  obtain ⟨before, behind, gap, rest, v, ht, hv⟩ := h
  rw [List.all_append, List.all_cons, show isBlank '=' = false by decide, Bool.false_and,
    Bool.and_false]

/-- What it begins with is a character of the type. -/
theorem head?_trim (h : a.Spelled s) : (trim s).head? ≠ some '<' := by
  obtain ⟨before, behind, gap, rest, v, ht, hv⟩ := h
  unfold padded
  rw [List.append_assoc, trim_blanks_append isBlank_of_mem_spaces, List.append_assoc]
  intro hhead
  exact absurd (head?_trim_type ht _ _ hhead) (by decide)

/-- The blanks at its end may be left out. -/
theorem dropEndWhile (h : a.Spelled s) : a.Spelled (Text.dropEndWhile isBlank s) := by
  obtain ⟨before, behind, gap, rest, v, ht, hv⟩ := h
  have hspaces (n : Nat) : Text.dropEndWhile isBlank (List.replicate n ' ') = [] :=
    List.rdropWhile_eq_nil_iff.mpr isBlank_of_mem_spaces
  have hequals : ∀ c ∈ (padded before behind a.type.toList ++ ['=']).getLast?,
      isBlank c = false := by
    intro c hc
    rw [List.getLast?_concat] at hc
    obtain rfl := Option.some.inj hc
    decide
  rw [List.append_cons, dropEndWhile_append hequals, List.append_assoc]
  by_cases hne : v = []
  · -- of an empty value not even the spaces in front stay
    have hnil : Text.dropEndWhile isBlank (padded gap rest v) = padded 0 0 v := by
      show Text.dropEndWhile isBlank (List.replicate gap ' ' ++ (v ++ List.replicate rest ' ')) = _
      rw [hne, List.nil_append, dropEndWhile_append_of_eq_nil (hspaces rest), hspaces gap]
      rfl
    rw [hnil]
    exact .intro before behind 0 0 v ht hv
  · have hkept : Text.dropEndWhile isBlank (v ++ List.replicate rest ' ') = v := by
      rw [dropEndWhile_append hv.getLast?, hspaces rest, List.append_nil]
    have hvalue : Text.dropEndWhile isBlank (padded gap rest v) = padded gap 0 v := by
      unfold padded
      rw [dropEndWhile_append_of_ne_nil (hkept.symm ▸ hne), hkept, List.replicate_zero,
        List.append_nil]
    rw [hvalue]
    exact .intro before behind gap 0 v ht hv

end Ava.Spelled

/-! ## Relative names -/

namespace Rdn.Spelled

variable {r : Rdn} {s : List Char}

theorem parseRdn_eq (h : r.Spelled s) : parseRdn s = .ok r := by
  have hsealed : ∀ (a : Ava) s, a.Spelled s → Sealed separatesAvas s := by
    intro a s h
    apply h.isSealed
    intro c hc
    obtain rfl := beq_iff_eq.mp hc
    decide
  have hplus : ∀ c ∈ ['+'], c ≠ '\\' ∧ separatesAvas c = true := by simp [separatesAvas]
  exact Joined.read hsealed hplus (fun _ _ h => h.all_isBlank) (fun _ _ h => h.parseAva_eq) h

/-- Nothing in a relative name separates relative names. -/
theorem isSealed (h : r.Spelled s) : Sealed separatesRdns s := by
  have havas : ∀ (a : Ava) s, a.Spelled s → Sealed separatesRdns s := by
    intro a s h
    apply h.isSealed
    intro c hc
    rcases Bool.or_eq_true _ _ ▸ hc with hc | hc <;> obtain rfl := beq_iff_eq.mp hc <;> decide
  have hplus : ∀ c ∈ ['+'], c ≠ '\\' ∧ separatesRdns c = false := by simp [separatesRdns]
  exact Joined.isSealed h havas hplus

theorem all_isBlank (h : r.Spelled s) : s.all isBlank = false :=
  Joined.all_isBlank h fun _ _ h => h.all_isBlank

theorem head?_trim (h : r.Spelled s) : (trim s).head? ≠ some '<' :=
  Joined.head?_trim h (fun _ _ h => h.all_isBlank) fun _ _ h => h.head?_trim

theorem dropEndWhile (h : r.Spelled s) : r.Spelled (Text.dropEndWhile isBlank s) := by
  have hplus : ∀ c ∈ ['+'], isBlank c = false := by simp [isBlank, inRanges, blankRanges]
  exact Joined.dropEndWhile h hplus fun _ _ h => h.dropEndWhile

end Rdn.Spelled

/-! ## Names -/

namespace Dn

/-- **Every spelling of a name is read as that name.** -/
theorem parse_spelled {rdns : List Rdn} {text : String} (h : Spelled rdns text.toList) :
    Dn.parse text = .ok ⟨trimmed text, .plain rdns⟩ := by
  have hblank : text.toList.all isBlank = false :=
    Joined.all_isBlank h fun _ _ h => h.all_isBlank
  have hhead : (trim text.toList).head? ≠ some '<' :=
    Joined.head?_trim h (fun _ _ h => h.all_isBlank) fun _ _ h => h.head?_trim
  have hend : Spelled rdns (Text.dropEndWhile isBlank text.toList) := by
    have hcommas : ∀ c ∈ [',', ';'], isBlank c = false := by simp [isBlank, inRanges, blankRanges]
    exact Joined.dropEndWhile h hcommas fun _ _ h => h.dropEndWhile
  have hread : parseRdns (trim text.toList) = .ok rdns := by
    have hcommas : ∀ c ∈ [',', ';'], c ≠ '\\' ∧ separatesRdns c = true := by simp [separatesRdns]
    have hne : Text.dropEndWhile isBlank text.toList ≠ [] := dropEndWhile_ne_nil hblank
    rw [parseRdns_trim hblank]
    unfold parseRdns
    rw [if_neg (by simpa using hne)]
    exact Joined.read (fun _ _ h => h.isSealed) hcommas (fun _ _ h => h.all_isBlank)
      (fun _ _ h => h.parseRdn_eq) hend
  exact parse_of_parseRdns hhead hread

/-- a letter of two bytes in digits of both cases, an escaped backslash in front of a numbered
space, an empty value, an escaped separator, spaces in all places -/
def respelled : String := " CN = \\C3\\a9\\\\\\20 + o=  ; 2.5=x\\,\"y  "

def respelledRdns : List Rdn := [[⟨"CN", "é\\ "⟩, ⟨"o", ""⟩], [⟨"2.5", "x,\"y"⟩]]

theorem spelled_respelled : Spelled respelledRdns respelled.toList := by
  have hletter : SpellsBytes (Utf8.encodeChar 'é') ['\\', 'C', '3', '\\', 'a', '9'] := by
    show SpellsBytes [0xC3, 0xA9] _
    exact .cons (.inr rfl) (.inl rfl) (.cons (.inl rfl) (.inl rfl) .nil)
  have hspace : SpellsBytes (Utf8.encodeChar ' ') ['\\', '2', '0'] := by
    show SpellsBytes [0x20] _
    exact .cons (.inl rfl) (.inl rfl) .nil
  have hname : SpellsValue true ['é', '\\', ' '] _ :=
    .cons (.numbered hletter) (.cons (.escaped (by decide) (by decide))
      (.cons (.numbered hspace) (.nil false)))
  have hnumber : SpellsValue true ['x', ',', '"', 'y'] _ :=
    .cons (.literal (by decide) fun _ => by decide)
      (.cons (.escaped (by decide) (by decide))
        (.cons (.literal (by decide) nofun)
          (.cons (.literal (by decide) fun _ => by decide) (.nil false))))
  have hcn : IsType "CN" := by decide
  have ho : IsType "o" := by decide
  have hoid : IsType "2.5" := by decide
  obtain ⟨text, htext, he⟩ : ∃ s, Spelled respelledRdns s ∧ s = respelled.toList :=
    ⟨_, .cons (.cons (.intro 1 1 1 1 _ hcn hname) List.mem_cons_self
        (.single (.intro 1 0 2 0 _ ho (.nil true)))) (c := ';') (by decide)
      (.single (.single (.intro 1 0 0 2 _ hoid hnumber))), by decide⟩
  exact he ▸ htext

theorem parse_respelled : Spelled respelledRdns respelled.toList ∧
    Dn.parse respelled = .ok ⟨trimmed respelled, .plain respelledRdns⟩ :=
  ⟨spelled_respelled, parse_spelled spelled_respelled⟩

end Dn

end DirectoryClient
