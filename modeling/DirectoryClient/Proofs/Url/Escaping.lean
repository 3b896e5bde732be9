import DirectoryClient.Proofs.Text.Ascii
import DirectoryClient.Url.Path

/-!
# Bytes in a path

A byte may stand in a path by its number behind a percent sign; letters and digits may also stand as
they are.

* `Percent.Spells`          the ways to write bytes so;
* `Spells.of_encode`        one of them is `Percent.encode`;
* `Spells.decode_eq`        each of them stands for its bytes;
* `Spells.eq_replicate`     nothing but dots is taken for the dots of a dot segment.
-/

namespace DirectoryClient

open DirectoryClient.Text

theorem Utf8.encodeChar_of_lt {c : Char} (h : c.toNat < 128) :
    encodeChar c = [UInt8.ofNat c.toNat] := if_pos h

namespace Url

theorem undot_of_dot {c : Char} (hc : c = 'e' ∨ c = 'E') (s : List Char) :
    undot ('%' :: '2' :: c :: s) = '.' :: undot s := by
  rw [undot, if_pos (by simpa using hc)]

theorem undot_of_not_dot {high low : Char} (h : ¬ (high = '2' ∧ (low = 'e' ∨ low = 'E')))
    (s : List Char) : undot ('%' :: high :: low :: s) = '%' :: undot (high :: low :: s) := by
  by_cases h2 : high = '2'
  · rw [h2, undot, if_neg (by simpa [h2] using h)]
  · rw [undot]
    intro c r _ hr
    exact h2 (List.cons.inj hr).1

theorem undot_cons_of_ne {c : Char} (hc : c ≠ '%') (s : List Char) :
    undot (c :: s) = c :: undot s := by
  rw [undot]
  intro _ _ h
  exact absurd h hc

end Url

namespace Percent

/-- letters and digits as they are, and any bytes behind percent signs, with digits in either letter
case -/
inductive Spells : List UInt8 → List Char → Prop
  | nil : Spells [] []
  | kept {c : Char} (hc : c.isAlphanum = true) {bytes : List UInt8} {s : List Char}
      (h : Spells bytes s) : Spells (UInt8.ofNat c.toNat :: bytes) (c :: s)
  | escaped {b : UInt8} {high low : Char} (hhigh : hexValue high = some (b.toNat / 16))
      (hlow : hexValue low = some (b.toNat % 16)) {bytes : List UInt8} {s : List Char}
      (h : Spells bytes s) : Spells (b :: bytes) ('%' :: high :: low :: s)

section
variable {b : UInt8} {high low : Char} (hhigh : hexValue high = some (b.toNat / 16))
  (hlow : hexValue low = some (b.toNat % 16))
include hhigh hlow

theorem pair_eq : pair (UInt8.ofNat high.toNat) (UInt8.ofNat low.toNat) = some b := by
  have hback {c : Char} (hc : c.toNat < 128) : Char.ofNat (UInt8.ofNat c.toNat).toNat = c := by
    rw [Utf8.toNat_ofNat (by omega), Char.ofNat_toNat]
  have hsum : 16 * (b.toNat / 16) + b.toNat % 16 = b.toNat := by omega
  unfold pair
  rw [hback (toNat_lt_of_hexValue hhigh), hback (toNat_lt_of_hexValue hlow), hhigh, hlow]
  dsimp only
  rw [hsum, UInt8.ofNat_toNat]

theorem eq_dot (h2 : high = '2') (he : low = 'e' ∨ low = 'E') : b = 0x2E := by
  have hdiv : b.toNat / 16 = 2 := by
    rw [h2] at hhigh
    exact (Option.some.inj hhigh).symm
  have hmod : b.toNat % 16 = 14 := by
    rcases he with rfl | rfl <;> exact (Option.some.inj hlow).symm
  apply UInt8.toNat_inj.mp
  show b.toNat = 46
  omega

end

namespace Spells

variable {bytes : List UInt8} {s : List Char}

/-- every byte by its number -/
theorem append_encodeByte {rest : List UInt8} (bytes : List UInt8) (h : Spells rest s) :
    Spells (bytes ++ rest) (bytes.flatMap encodeByte ++ s) := by
  induction bytes with
  | nil => exact h
  | cons b bytes ih =>
    have hb : b.toNat < 256 := b.toNat_lt
    have hhigh := hexValue_hexUpper ⟨b.toNat / 16, by omega⟩
    have hlow := hexValue_hexUpper ⟨b.toNat % 16, by omega⟩
    exact .escaped hhigh hlow ih

theorem of_encode (s : List Char) : Spells (Utf8.encode s) (encode Char.isAlphanum s) := by
  induction s with
  | nil => exact .nil
  | cons c s ih =>
    rw [Utf8.encode, encode, List.flatMap_cons, List.flatMap_cons]
    by_cases hc : c.isAlphanum = true
    · rw [if_pos hc, Utf8.encodeChar_of_lt (toNat_lt_of_isAlphanum hc)]
      exact .kept hc ih
    · rw [if_neg hc]
      exact append_encodeByte _ ih

theorem chars (h : Spells bytes s) : ∀ c ∈ s, c.isAlphanum = true ∨ c = '%' := by
  induction h with
  | nil => exact List.forall_mem_nil _
  | kept hc _ ih => exact List.forall_mem_cons.mpr ⟨.inl hc, ih⟩
  | escaped hhigh hlow _ ih =>
    refine List.forall_mem_cons.mpr ⟨.inr rfl, List.forall_mem_cons.mpr ⟨.inl ?_, ?_⟩⟩
    · exact isAlphanum_of_hexValue hhigh
    · exact List.forall_mem_cons.mpr ⟨.inl (isAlphanum_of_hexValue hlow), ih⟩

/-- **What is written for some bytes stands for them.** -/
theorem decode_eq (h : Spells bytes s) : decode (Utf8.encode s) = bytes := by
  induction h with
  | nil => rfl
  | @kept c hc bytes s _ ih =>
    have hlt := toNat_lt_of_isAlphanum hc
    have hsign : c.isAlphanum = true → UInt8.ofNat c.toNat ≠ sign :=
      forall_ascii hlt (by decide)
    rw [Utf8.encode, List.flatMap_cons, Utf8.encodeChar_of_lt hlt, List.singleton_append,
      decode_plain _ _ (hsign hc)]
    exact congrArg _ ih
  | @escaped b high low hhigh hlow bytes s _ ih =>
    rw [Utf8.encode, List.flatMap_cons, List.flatMap_cons, List.flatMap_cons,
      Utf8.encodeChar_of_lt (toNat_lt_of_hexValue hhigh),
      Utf8.encodeChar_of_lt (toNat_lt_of_hexValue hlow)]
    have hread := decode_triple _ _ b (Utf8.encode s) (pair_eq hhigh hlow)
    rw [ih] at hread
    exact hread

/-- Nothing but dots is taken for dots. -/
theorem eq_replicate (h : Spells bytes s) {n : Nat} (hdots : Url.undot s = List.replicate n '.') :
    bytes = List.replicate n 0x2E := by
  induction h generalizing n with
  | nil =>
    cases n with
    | zero => rfl
    | succ n => cases hdots
  | @kept c hc bytes s h ih =>
    have hpercent : c ≠ '%' := by rintro rfl; exact absurd hc (by decide)
    rw [Url.undot_cons_of_ne hpercent] at hdots
    cases n with
    | zero => cases hdots
    | succ n =>
      obtain rfl : c = '.' := (List.cons.inj hdots).1
      exact absurd hc (by decide)
  | @escaped b high low hhigh hlow bytes s h ih =>
    by_cases hdot : high = '2' ∧ (low = 'e' ∨ low = 'E')
    · obtain ⟨rfl, he⟩ := hdot
      rw [Url.undot_of_dot he] at hdots
      cases n with
      | zero => cases hdots
      | succ n => rw [eq_dot hhigh hlow rfl he, ih (List.cons.inj hdots).2, List.replicate_succ]
    · rw [Url.undot_of_not_dot hdot] at hdots
      cases n with
      | zero => cases hdots
      | succ n => cases hdots

end Spells

end Percent

end DirectoryClient
