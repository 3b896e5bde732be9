/-!
# Letters of any script in the letters of ASCII

A label beyond ASCII is written as its characters in ASCII, a hyphen, and a series of whole numbers
in digits of base 36 (Punycode).  Each number says which character comes next and where it goes:
for each character in turn the places in the text are counted, and the number is how many of these
pairs to skip.

* `digitValue`   the value of a digit: letters come before the decimal digits;
* `threshold`    below which a digit is the last one of its number, which `bias` adapts;
* `number?`      a number at the start of a text, and what follows it;
* `insertAll`    the characters that the numbers say, put in their places;
* `decode`       the label.

`length_number?` says that a number takes at least one digit, so reading comes to an end.
-/

namespace DirectoryClient.Domain.Punycode

def digitValue (c : Char) : Option Nat :=
  if c.isLower then some (c.toNat - 97)
  else if c.isUpper then some (c.toNat - 65)
  else if c.isDigit then some (c.toNat - 22)
  else none

def base : Nat := 36

/-- `k` grows by the base with every digit -/
def threshold (bias k : Nat) : Nat := Nat.min 26 (Nat.max 1 (k - bias))

/-- Numbers above 32 bits are refused.  The digits read so far make `n`, and the next one counts
`weight`. -/
def number? (bias k weight n : Nat) : List Char → Option (Nat × List Char)
  | [] => none
  | c :: s =>
    (digitValue c).bind fun d =>
      let n := n + d * weight
      let t := threshold bias k
      let weight' := weight * (base - t)
      if UInt32.size ≤ n then none
      else if d < t then some (n, s)
      else if UInt32.size ≤ weight' then none
      else number? bias (k + base) weight' n s

/-- reduces a number until digits can tell it apart, counting the steps in `k` -/
def reduce (n k : Nat) : Nat :=
  if n ≤ 455 then k + 36 * n / (n + 38) else reduce (n / 35) (k + base)
termination_by n
decreasing_by omega

/-- the bias after the number `n` has made a text of `length` characters -/
def adapt (n length : Nat) (first : Bool) : Nat :=
  let n := if first then n / 700 else n / 2
  reduce (n + n / length) 0

theorem length_number? {bias k weight n m : Nat} {s r : List Char}
    (h : number? bias k weight n s = some (m, r)) : r.length < s.length := by
  induction s generalizing k weight n with
  | nil => simp [number?] at h
  | cons c s ih =>
    rw [number?] at h
    obtain ⟨d, _, h⟩ := Option.bind_eq_some_iff.mp h
    simp only at h
    split at h
    · simp at h
    · split at h
      · simp only [Option.some.injEq, Prod.mk.injEq] at h
        simp [h.2]
      · split at h
        · simp at h
        · exact Nat.lt_succ_of_lt (ih h)

/-- `point` is the last character and `place` where the next one could go at the earliest. -/
def insertAll (point place bias : Nat) (text s : List Char) : Option (List Char) :=
  if s = [] then some text
  else match h : number? bias base 1 place s with
    | none => none
    | some (n, rest) =>
      have : rest.length < s.length := length_number? h
      let length := text.length + 1
      let point := point + n / length
      let place' := n % length
      if point.isValidChar then
        insertAll point (place' + 1) (adapt (n - place) length (place == 0))
          (text.take place' ++ Char.ofNat point :: text.drop place') rest
      else none
termination_by s.length

/-- the characters before the last hyphen, and the numbers after it -/
def split (s : List Char) : List Char × List Char :=
  let digits := (s.reverse.takeWhile (· != '-')).reverse
  let plain := (s.take (s.length - digits.length)).dropLast
  if plain.isEmpty then ([], s) else (plain, digits)

/-- A hyphen at the very start belongs to the numbers, where it is none. -/
def decode (s : List Char) : Option (List Char) :=
  let (plain, digits) := split s
  insertAll 128 0 72 plain digits

end DirectoryClient.Domain.Punycode
