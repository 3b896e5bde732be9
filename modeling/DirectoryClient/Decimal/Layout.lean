import DirectoryClient.Decimal.Shortest

/-!
# Writing floating-point numbers

`Layout` holds what a format decides about the text of a number: between which exponents it is
written out, whether a positive exponent has a sign, and how ties go.  `Layout.write` writes the
shortest digits that way, always with a point and a digit after it when there is no exponent.
-/

namespace DirectoryClient.Decimal

structure Layout where
  /-- the least exponent of the first digit that is written out -/
  least : Int
  /-- the greatest exponent of the first digit that is written out -/
  greatest : Int
  /-- whether a positive exponent has a sign -/
  plus : Bool
  /-- which of two equally short and near decimals is written -/
  tie : Tie

def digitsOf (n : Nat) : List Char := Nat.toDigits 10 n

/-- the number `0.d₁d₂… * 10 ^ (e + 1)` without an exponent -/
def positional (ds : List Char) (e : Int) : List Char :=
  if e < 0 then ['0', '.'] ++ List.replicate (-e - 1).toNat '0' ++ ds
  else if ds.length ≤ e.toNat + 1 then
    ds ++ List.replicate (e.toNat + 1 - ds.length) '0' ++ ['.', '0']
  else ds.take (e.toNat + 1) ++ ['.'] ++ ds.drop (e.toNat + 1)

/-- one digit, the others after a point, and the exponent -/
def exponential (plus : Bool) (ds : List Char) (e : Int) : List Char :=
  ds.take 1 ++ (if ds.length > 1 then '.' :: ds.drop 1 else []) ++ ['e'] ++
    (if e < 0 then ['-'] else if plus then ['+'] else []) ++ digitsOf e.natAbs

def Layout.magnitude (l : Layout) (x : Scientific) : List Char :=
  let ds := digitsOf x.digits
  let e : Int := x.exponent + ds.length - 1
  if l.least ≤ e ∧ e ≤ l.greatest then positional ds e else exponential l.plus ds e

def Layout.write (l : Layout) (x : Float) : List Char :=
  match Binary.ofBits x.toBits with
  | .notANumber => ['N', 'a', 'N']
  | .infinite negative => (if negative then ['-'] else []) ++ ['i', 'n', 'f']
  | .finite negative m q least =>
    (if negative then ['-'] else []) ++
      if m = 0 then ['0', '.', '0'] else l.magnitude (shortest l.tie m q least)

end DirectoryClient.Decimal
