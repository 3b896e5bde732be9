/-!
# Characters as bytes

* `encodeChar`, `encode`   the bytes of a character and of a text;
* `Pending`                what is known in the middle of a character: how many bytes are still
                           owed, where the next one must lie and the value so far;
* `decode`                 the text of a sequence of bytes, or a `Fault` saying where and why there
                           is none.

`decode_encode` reads every text back, `decode_append_encode` also behind bytes that are read.
-/

namespace DirectoryClient.Utf8

/-- the bytes of one character -/
def encodeChar (c : Char) : List UInt8 :=
  let n := c.toNat
  if n < 0x80 then [UInt8.ofNat n]
  else if n < 0x800 then [UInt8.ofNat (0xC0 + n / 64), UInt8.ofNat (0x80 + n % 64)]
  else if n < 0x10000 then
    [UInt8.ofNat (0xE0 + n / 4096), UInt8.ofNat (0x80 + n / 64 % 64), UInt8.ofNat (0x80 + n % 64)]
  else
    [UInt8.ofNat (0xF0 + n / 262144), UInt8.ofNat (0x80 + n / 4096 % 64),
      UInt8.ofNat (0x80 + n / 64 % 64), UInt8.ofNat (0x80 + n % 64)]

def encode (s : List Char) : List UInt8 := s.flatMap encodeChar

/-- why a sequence of bytes is no text -/
inductive Fault
  /-- the `length` bytes from `start` begin no character -/
  | invalid (length start : Nat)
  /-- the bytes end inside the character that begins at `start` -/
  | incomplete (start : Nat)
  deriving DecidableEq, Repr

def Fault.message : Fault → String
  | .invalid length start =>
    "invalid utf-8 sequence of " ++ toString length ++ " bytes from index " ++ toString start
  | .incomplete start => "incomplete utf-8 byte sequence from index " ++ toString start

/-- The character that begins at `start` has `seen` bytes so far and owes `owed + 1` more; the next
one lies between `low` and `high`. -/
structure Pending where
  start : Nat
  seen : Nat
  owed : Nat
  low : Nat
  high : Nat
  value : Nat

/-- the state after a first byte that is not a character by itself -/
def lead (start b : Nat) : Option Pending :=
  if 0xC2 ≤ b ∧ b ≤ 0xDF then some ⟨start, 1, 0, 0x80, 0xBF, b - 0xC0⟩
  else if b = 0xE0 then some ⟨start, 1, 1, 0xA0, 0xBF, 0⟩
  else if b = 0xED then some ⟨start, 1, 1, 0x80, 0x9F, 0xD⟩
  else if 0xE1 ≤ b ∧ b ≤ 0xEF then some ⟨start, 1, 1, 0x80, 0xBF, b - 0xE0⟩
  else if b = 0xF0 then some ⟨start, 1, 2, 0x90, 0xBF, 0⟩
  else if b = 0xF4 then some ⟨start, 1, 2, 0x80, 0x8F, 4⟩
  else if 0xF1 ≤ b ∧ b ≤ 0xF3 then some ⟨start, 1, 2, 0x80, 0xBF, b - 0xF0⟩
  else none

/-- the bytes from position `i` on -/
def decodeFrom : Option Pending → Nat → List UInt8 → Except Fault (List Char)
  | none, _, [] => .ok []
  | some p, _, [] => .error (.incomplete p.start)
  | none, i, b :: bytes =>
    if b.toNat < 0x80 then (decodeFrom none (i + 1) bytes).map (Char.ofNat b.toNat :: ·)
    else match lead i b.toNat with
      | some p => decodeFrom (some p) (i + 1) bytes
      | none => .error (.invalid 1 i)
  | some p, i, b :: bytes =>
    if p.low ≤ b.toNat ∧ b.toNat ≤ p.high then
      let value := p.value * 64 + (b.toNat - 0x80)
      match p.owed with
      | 0 => (decodeFrom none (i + 1) bytes).map (Char.ofNat value :: ·)
      | owed + 1 => decodeFrom (some ⟨p.start, p.seen + 1, owed, 0x80, 0xBF, value⟩) (i + 1) bytes
    else .error (.invalid p.seen p.start)

def decode (bytes : List UInt8) : Except Fault (List Char) := decodeFrom none 0 bytes

/-- the bytes of a string -/
def bytesOf (s : String) : List UInt8 := encode s.toList

theorem toNat_ofNat {n : Nat} (h : n < 256) : (UInt8.ofNat n).toNat = n := by
  rw [UInt8.toNat_ofNat']
  exact Nat.mod_eq_of_lt h

/-- a byte that ends a character -/
theorem decodeFrom_last (st seen low high value i t : Nat) (bytes : List UInt8) (ht : t < 64)
    (hl : low ≤ 0x80 + t) (hh : 0x80 + t ≤ high) :
    decodeFrom (some ⟨st, seen, 0, low, high, value⟩) i (UInt8.ofNat (0x80 + t) :: bytes) =
      (decodeFrom none (i + 1) bytes).map (Char.ofNat (value * 64 + t) :: ·) := by
  rw [decodeFrom, toNat_ofNat (by omega), if_pos ⟨hl, hh⟩]
  simp only []
  rw [Nat.add_sub_cancel_left]

/-- a byte inside a character -/
theorem decodeFrom_more (st seen owed low high value i t : Nat) (bytes : List UInt8) (ht : t < 64)
    (hl : low ≤ 0x80 + t) (hh : 0x80 + t ≤ high) :
    decodeFrom (some ⟨st, seen, owed + 1, low, high, value⟩) i (UInt8.ofNat (0x80 + t) :: bytes) =
      decodeFrom (some ⟨st, seen + 1, owed, 0x80, 0xBF, value * 64 + t⟩) (i + 1) bytes := by
  rw [decodeFrom, toNat_ofNat (by omega), if_pos ⟨hl, hh⟩]
  simp only []
  rw [Nat.add_sub_cancel_left]

/-- a byte that begins a character of several bytes -/
theorem decodeFrom_lead (i b : Nat) (p : Pending) (bytes : List UInt8) (h : 0x80 ≤ b)
    (hb : b < 0x100) (hp : lead i b = some p) :
    decodeFrom none i (UInt8.ofNat b :: bytes) = decodeFrom (some p) (i + 1) bytes := by
  rw [decodeFrom, toNat_ofNat hb, if_neg (by omega), hp]

/-- the first byte of three tells how the second one is bounded -/
theorem lead_three (i k t : Nat) (hk : k < 16) (ht : t < 64) (low : 32 ≤ t ∨ k ≠ 0)
    (high : t < 32 ∨ k ≠ 0xD) :
    ∃ l h, lead i (0xE0 + k) = some ⟨i, 1, 1, l, h, k⟩ ∧ l ≤ 0x80 + t ∧ 0x80 + t ≤ h := by
  by_cases e0 : k = 0
  · subst e0
    exact ⟨0xA0, 0xBF, rfl, by omega, by omega⟩
  by_cases ed : k = 0xD
  · subst ed
    exact ⟨0x80, 0x9F, rfl, by omega, by omega⟩
  refine ⟨0x80, 0xBF, ?_, by omega, by omega⟩
  rw [lead, if_neg (by omega), if_neg (by omega), if_neg (by omega), if_pos (by omega),
    Nat.add_sub_cancel_left]

/-- the first byte of four tells how the second one is bounded -/
theorem lead_four (i k t : Nat) (hk : k < 5) (ht : t < 64) (low : 16 ≤ t ∨ k ≠ 0)
    (high : t < 16 ∨ k ≠ 4) :
    ∃ l h, lead i (0xF0 + k) = some ⟨i, 1, 2, l, h, k⟩ ∧ l ≤ 0x80 + t ∧ 0x80 + t ≤ h := by
  by_cases f0 : k = 0
  · subst f0
    exact ⟨0x90, 0xBF, rfl, by omega, by omega⟩
  by_cases f4 : k = 4
  · subst f4
    exact ⟨0x80, 0x8F, rfl, by omega, by omega⟩
  refine ⟨0x80, 0xBF, ?_, by omega, by omega⟩
  rw [lead, if_neg (by omega), if_neg (by omega), if_neg (by omega), if_neg (by omega),
    if_neg (by omega), if_neg (by omega), if_pos (by omega), Nat.add_sub_cancel_left]

theorem decodeFrom_encodeChar (c : Char) (i : Nat) (bytes : List UInt8) :
    ∃ j, decodeFrom none i (encodeChar c ++ bytes) = (decodeFrom none j bytes).map (c :: ·) := by
  have valid : c.toNat < 0xD800 ∨ 0xDFFF < c.toNat ∧ c.toNat < 0x110000 := c.valid
  have back : Char.ofNat c.toNat = c := Char.ofNat_toNat c
  rw [encodeChar]
  generalize c.toNat = n at valid back
  by_cases h1 : n < 0x80
  · refine ⟨i + 1, ?_⟩
    rw [if_pos h1, List.singleton_append, decodeFrom, toNat_ofNat (by omega), if_pos h1, back]
  by_cases h2 : n < 0x800
  · refine ⟨i + 2, ?_⟩
    have hl : lead i (0xC0 + n / 64) = some ⟨i, 1, 0, 0x80, 0xBF, n / 64⟩ := by
      rw [lead, if_pos (by omega), Nat.add_sub_cancel_left]
    rw [if_neg h1, if_pos h2, List.cons_append, decodeFrom_lead _ _ _ _ (by omega) (by omega) hl,
      List.cons_append, decodeFrom_last _ _ _ _ _ _ _ _ (by omega) (by omega) (by omega),
      show n / 64 * 64 + n % 64 = n by omega, back, List.nil_append]
  by_cases h3 : n < 0x10000
  · refine ⟨i + 3, ?_⟩
    obtain ⟨l, h, hl, h4, h5⟩ := lead_three i (n / 4096) (n / 64 % 64) (by omega) (by omega)
      (by omega) (by omega)
    rw [if_neg h1, if_neg h2, if_pos h3, List.cons_append,
      decodeFrom_lead _ _ _ _ (by omega) (by omega) hl, List.cons_append,
      decodeFrom_more _ _ _ _ _ _ _ _ _ (by omega) h4 h5, List.cons_append,
      decodeFrom_last _ _ _ _ _ _ _ _ (by omega) (by omega) (by omega),
      show (n / 4096 * 64 + n / 64 % 64) * 64 + n % 64 = n by omega, back, List.nil_append]
  · refine ⟨i + 4, ?_⟩
    obtain ⟨l, h, hl, h4, h5⟩ := lead_four i (n / 262144) (n / 4096 % 64) (by omega) (by omega)
      (by omega) (by omega)
    rw [if_neg h1, if_neg h2, if_neg h3, List.cons_append,
      decodeFrom_lead _ _ _ _ (by omega) (by omega) hl, List.cons_append,
      decodeFrom_more _ _ _ _ _ _ _ _ _ (by omega) h4 h5, List.cons_append,
      decodeFrom_more _ _ _ _ _ _ _ _ _ (by omega) (by omega) (by omega), List.cons_append,
      decodeFrom_last _ _ _ _ _ _ _ _ (by omega) (by omega) (by omega),
      show ((n / 262144 * 64 + n / 4096 % 64) * 64 + n / 64 % 64) * 64 + n % 64 = n by omega,
      back, List.nil_append]

theorem decodeFrom_encode (s : List Char) (i : Nat) : decodeFrom none i (encode s) = .ok s := by
  induction s generalizing i with
  | nil => rfl
  | cons c s ih =>
    obtain ⟨j, hj⟩ := decodeFrom_encodeChar c i (encode s)
    rw [encode, List.flatMap_cons, ← encode, hj, ih]
    rfl

/-- **Every text is read back from its bytes.** -/
theorem decode_encode (s : List Char) : decode (encode s) = .ok s := decodeFrom_encode s 0

/-- One more character in front of what is read. -/
theorem exists_of_map_cons {c : Char} {x : Except Fault (List Char)} {s : List Char}
    (h : x.map (c :: ·) = .ok s) : ∃ t, x = .ok t ∧ s = c :: t := by
  cases x with
  | error e => cases h
  | ok t => exact ⟨t, rfl, (Except.ok.inj h).symm⟩

theorem map_cons_map_append (c : Char) (s : List Char) (x : Except Fault (List Char)) :
    (x.map (s ++ ·)).map (c :: ·) = x.map (c :: s ++ ·) := by
  cases x <;> rfl

/-- Behind bytes that are read, reading starts anew. -/
theorem decodeFrom_append {p : Option Pending} {i : Nat} {bytes : List UInt8} {s : List Char}
    (h : decodeFrom p i bytes = .ok s) (rest : List UInt8) :
    ∃ j, decodeFrom p i (bytes ++ rest) = (decodeFrom none j rest).map (s ++ ·) := by
  fun_induction decodeFrom p i bytes generalizing s with
  | case1 i =>
    obtain rfl := Except.ok.inj h
    refine ⟨i, ?_⟩
    rw [List.nil_append]
    cases decodeFrom none i rest <;> rfl
  | case2 i p => cases h
  | case3 i b bytes hb ih =>
    obtain ⟨t, ht, rfl⟩ := exists_of_map_cons h
    obtain ⟨j, hj⟩ := ih ht
    refine ⟨j, ?_⟩
    rw [List.cons_append, decodeFrom, if_pos hb, hj, map_cons_map_append]
  | case4 i b bytes hb p hp ih =>
    obtain ⟨j, hj⟩ := ih h
    refine ⟨j, ?_⟩
    rw [List.cons_append, decodeFrom, if_neg hb, hp]
    exact hj
  | case5 i b bytes hb hp => cases h
  | case6 p i b bytes hb value hp =>
    rename_i ih
    obtain ⟨t, ht, rfl⟩ := exists_of_map_cons h
    obtain ⟨j, hj⟩ := ih ht
    refine ⟨j, ?_⟩
    rw [List.cons_append, decodeFrom, if_pos hb, hp]
    dsimp only
    rw [hj, map_cons_map_append]
  | case7 p i b bytes hb value owed hp =>
    rename_i ih
    obtain ⟨j, hj⟩ := ih h
    refine ⟨j, ?_⟩
    rw [List.cons_append, decodeFrom, if_pos hb, hp]
    exact hj
  | case8 => cases h

theorem decode_append_encode {bytes : List UInt8} {s : List Char} (h : decode bytes = .ok s)
    (t : List Char) : decode (bytes ++ encode t) = .ok (s ++ t) := by
  obtain ⟨j, hj⟩ := decodeFrom_append h (encode t)
  rw [decode, hj, decodeFrom_encode]
  rfl

end DirectoryClient.Utf8
