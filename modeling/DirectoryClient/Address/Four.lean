import DirectoryClient.Text.Split

/-!
# Internet addresses of four bytes

* `IPv4.parse`    four decimal numbers below 256 with points between them, without leading zeros;
* `IPv4.text`     the same in writing;
* `isLoopback`, `isLinkLocal`, `isBroadcast`, `isUnspecified`   the ranges that never leave a host
                  or its link.
-/

namespace DirectoryClient

open DirectoryClient.Text

structure IPv4 where
  a : UInt8
  b : UInt8
  c : UInt8
  d : UInt8
  deriving DecidableEq, Repr

namespace IPv4

/-- a decimal number below 256 without leading zeros -/
def octet? (s : List Char) : Option UInt8 :=
  if s.isEmpty || 3 < s.length || !s.all Char.isDigit || (s.head? == some '0' && 1 < s.length) then
    none
  else
    let n := s.foldl (fun n c => 10 * n + (c.toNat - 48)) 0
    if n < 256 then some (UInt8.ofNat n) else none

def parse (s : List Char) : Option IPv4 :=
  match (cut (· == '.') s).map octet? with
  | [some a, some b, some c, some d] => some ⟨a, b, c, d⟩
  | _ => none

def text (x : IPv4) : String :=
  ".".intercalate ([x.a, x.b, x.c, x.d].map fun n => toString n.toNat)

def isLoopback (x : IPv4) : Bool := x.a == 127
def isLinkLocal (x : IPv4) : Bool := x.a == 169 && x.b == 254
def isBroadcast (x : IPv4) : Bool := x == ⟨255, 255, 255, 255⟩
def isUnspecified (x : IPv4) : Bool := x == ⟨0, 0, 0, 0⟩

end IPv4

end DirectoryClient
