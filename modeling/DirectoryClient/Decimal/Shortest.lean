/-!
# The shortest decimal that names a floating-point number

A finite number is `m * 2 ^ q`.  The reals that round to it form an interval around it, whose ends
belong to it when `m` is even.

* `Interval`     the interval, in quarters of the last binary place;
* `Tie`          which of two equally near decimals is taken;
* `onGrid`       of the two neighbours of the number among the decimals `d * 10 ^ s` the nearer one
                 that lies in the interval;
* `shortest`     the first of the grids with 1, 2, … 17 digits that has one.

A point of a grid in the interval has a neighbour of the number in the interval too, so no shorter
decimal is missed.
-/

namespace DirectoryClient.Decimal

/-- what the 64 bits of a floating-point number say -/
inductive Binary
  | notANumber
  | infinite (negative : Bool)
  | finite (negative : Bool) (m : Nat) (q : Int) (least : Bool)
  deriving DecidableEq, Repr

/-- The flag `least` marks the least significand of its exponent, below which numbers lie twice as
close. -/
def Binary.ofBits (bits : UInt64) : Binary :=
  let n := bits.toNat
  let negative := n / Nat.pow 2 63 = 1
  let e : Nat := n / Nat.pow 2 52 % Nat.pow 2 11
  let f := n % Nat.pow 2 52
  if e = 2047 then if f = 0 then .infinite negative else .notANumber
  else if e = 0 then .finite negative f (-1074) false
  else .finite negative (Nat.pow 2 52 + f) ((e : Int) - 1075) (f = 0 && e != 1)

/-- The number is `mid` units, and what rounds to it lies between `low` and `high` units; a unit is
`unitNum / unitDen`. -/
structure Interval where
  low : Nat
  mid : Nat
  high : Nat
  closed : Bool
  unitNum : Nat
  unitDen : Nat

def Interval.of (m : Nat) (q : Int) (least : Bool) : Interval where
  low := if least then 4 * m - 1 else 4 * m - 2
  mid := 4 * m
  high := 4 * m + 2
  closed := m % 2 == 0
  unitNum := Nat.pow 2 (q - 2).toNat
  unitDen := Nat.pow 2 (2 - q).toNat

/-- a decimal `digits * 10 ^ exponent` -/
structure Scientific where
  digits : Nat
  exponent : Int
  deriving DecidableEq, Repr

/-- whether `d` steps of the grid lie in the interval, for a step of `g` and a unit of `u` on a
common scale -/
def Interval.contains (i : Interval) (u g d : Nat) : Bool :=
  if i.closed then i.low * u ≤ d * g && d * g ≤ i.high * u
  else i.low * u < d * g && d * g < i.high * u

/-- which of two equally near decimals is taken -/
inductive Tie
  /-- the one with an even last digit -/
  | even
  /-- the one farther from zero -/
  | away
  deriving DecidableEq, Repr

/-- whether the lower of two neighbours is taken, which is `d` steps of the grid -/
def Tie.takesLower (d : Nat) : Tie → Bool
  | .even => d % 2 == 0
  | .away => false

/-- The nearer neighbour wins. -/
def Interval.onGrid (i : Interval) (tie : Tie) (s : Int) : Option Scientific :=
  let u := i.unitNum * Nat.pow 10 (-s).toNat
  let g := i.unitDen * Nat.pow 10 s.toNat
  let d := i.mid * u / g
  let r := i.mid * u % g
  match i.contains u g d, i.contains u g (d + 1) with
  | true, true => some ⟨if 2 * r < g || (2 * r == g && tie.takesLower d) then d else d + 1, s⟩
  | true, false => some ⟨d, s⟩
  | false, true => some ⟨d + 1, s⟩
  | false, false => none

/-- the decimal exponent of the first digit -/
def Interval.magnitude (i : Interval) : Int :=
  ((Nat.toDigits 10 (i.mid * i.unitNum * Nat.pow 10 400 / i.unitDen)).length : Int) - 401

/-- the same decimal without zeros at its end -/
def Scientific.strip : Nat → Scientific → Scientific
  | 0, x => x
  | n + 1, x =>
    if x.digits % 10 = 0 ∧ x.digits ≠ 0 then strip n ⟨x.digits / 10, x.exponent + 1⟩ else x

def shortest (tie : Tie) (m : Nat) (q : Int) (least : Bool) : Scientific :=
  let i := Interval.of m q least
  let e := i.magnitude
  let found := (List.range 17).findSome? fun (k : Nat) => i.onGrid tie (e - k)
  (found.getD ⟨i.mid * i.unitNum / i.unitDen, 0⟩).strip 20

end DirectoryClient.Decimal
