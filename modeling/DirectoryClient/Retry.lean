/-!
# Trying again

* `RetryPolicy`        how often to try and how long to wait in between;
* `allowsAttempt`      whether an attempt, counted from one, is permitted;
* `plainDelay`         the wait before a retry, counted from zero: the first delay times a power of
                       the multiplier, up to the longest delay;
* `delay`              the same in whole milliseconds, up to a quarter longer by a random draw.
-/

namespace DirectoryClient

/-- Delays are in milliseconds. -/
structure RetryPolicy where
  maxAttempts : Option UInt32 := none
  initialDelay : UInt64 := 100
  maxDelay : UInt64 := 10000
  multiplier : Float := 2.0
  jitter : Bool := true

namespace RetryPolicy

/-- no waiting between attempts -/
def immediate : RetryPolicy := { initialDelay := 0, maxDelay := 0, jitter := false }

def withMaxAttempts (p : RetryPolicy) (n : UInt32) : RetryPolicy := { p with maxAttempts := some n }

def allowsAttempt (p : RetryPolicy) (attempt : UInt32) : Bool :=
  match p.maxAttempts with
  | some n => attempt ≤ n
  | none => true

/-- `r * a ^ n` by repeated squaring -/
def powerTimes (r a : Float) (n : Nat) : Float :=
  let r := if n % 2 = 1 then r * a else r
  if n / 2 = 0 then r else powerTimes r (a * a) (n / 2)
termination_by n

/-- a whole power; a negative one is the inverse of the positive one -/
def power (a : Float) (e : Int) : Float :=
  let r := powerTimes 1.0 a e.natAbs
  if e < 0 then 1.0 / r else r

/-- the number of a retry as an exponent: 32 bits with a sign -/
def exponentOf (retry : UInt32) : Int := retry.toInt32.toInt

/-- the smaller number; what is no number counts for nothing -/
def least (x y : Float) : Float :=
  if x.isNaN then y else if y.isNaN then x else if x < y then x else y

def plainDelay (p : RetryPolicy) (retry : UInt32) : Float :=
  least (p.initialDelay.toFloat * power p.multiplier (exponentOf retry)) p.maxDelay.toFloat

/-- a draw as a number from zero up to, but not including, a quarter -/
def quarter (draw : UInt64) : Float :=
  (Float.ofBits ((0x3FF0000000000000 : UInt64) ||| (draw >>> 12)) - 1.0) * 0.25

/-- The wait is cut to whole milliseconds and to what 64 bits hold. -/
def delay (p : RetryPolicy) (retry : UInt32) (draw : UInt64) : UInt64 :=
  let d := p.plainDelay retry
  (if p.jitter then d * (1.0 + quarter draw) else d).toUInt64

end RetryPolicy

end DirectoryClient
