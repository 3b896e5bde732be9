import DirectoryClient.Json.Basic

/-!
# Numbers in JSON text

A number without point and exponent is a whole number as long as it fits in 64 bits, with a sign or
without; every other number is a floating-point number.

A floating-point number is read as a significand of at most 64 bits times a power of ten, both
taken as floating-point numbers; digits that no longer fit in the significand count by their place
only.

* `Numeral`     the parts of a number as written;
* `accumulate`  the significand, and the digits that did not fit;
* `scale`       a significand times a power of ten, none if it is too large;
* `value`       the number.
-/

namespace DirectoryClient.Json

structure Numeral where
  negative : Bool
  whole : List Nat
  fraction : List Nat
  /-- the written exponent, if there is a fraction or an exponent -/
  exponent : Int
  /-- whether there is neither a fraction nor an exponent -/
  plain : Bool

/-- the number that digits write -/
def ofDigits (ds : List Nat) : Nat := ds.foldl (fun n d => 10 * n + d) 0

/-- the digits taken into a significand that stays within 64 bits, and how many were taken -/
def accumulate (n taken : Nat) : List Nat → Nat × Nat
  | [] => (n, taken)
  | d :: ds => if 10 * n + d < UInt64.size then accumulate (10 * n + d) (taken + 1) ds else (n, taken)

def powerOfTen (e : Nat) : Float := Float.ofScientific 1 false e

/-- a number divided by a power of ten, in steps for which there is a power -/
def scaleDown (x : Float) (e : Nat) : Float :=
  if e ≤ 308 then x / powerOfTen e
  else if x == 0 then x
  else scaleDown (x / powerOfTen 308) (e - 308)
termination_by e

def scale (n : Nat) (e : Int) : Option Float :=
  let x := (UInt64.ofNat n).toFloat
  if e < 0 then some (scaleDown x e.natAbs)
  else if e ≤ 308 then
    let y := x * powerOfTen e.natAbs
    if y.isInf then none else some y
  else if x == 0 then some x
  else none

def Numeral.float? (t : Numeral) : Option Float :=
  let (n, taken) := accumulate 0 0 t.whole
  let (m, places) := accumulate n 0 t.fraction
  let x := scale m ((t.whole.length - taken : Nat) - (places : Int) + t.exponent)
  if t.negative then x.map (-·) else x

def Numeral.value (t : Numeral) : Option Json :=
  let n := ofDigits t.whole
  if t.plain && t.negative && 0 < n && 2 * n ≤ UInt64.size then some (.int (-(n : Int)))
  else if t.plain && !t.negative && n < UInt64.size then some (.int n)
  else t.float?.map .float

end DirectoryClient.Json
