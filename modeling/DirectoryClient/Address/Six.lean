import DirectoryClient.Address.Four
import DirectoryClient.Text.Hex

/-!
# Internet addresses of eight pieces

* `IPv6.parse`   pieces of up to four hexadecimal digits with colons between them; the last two may
                 be written as a four-byte address, and one run of zero pieces as two colons;
* `IPv6.text`    the canonical form: the first longest run of two or more zero pieces is left out,
                 and the addresses that stand for four-byte ones show them.
-/

namespace DirectoryClient

open DirectoryClient.Text

structure IPv6 where
  pieces : List UInt16
  length_eq : pieces.length = 8
  deriving DecidableEq, Repr

namespace IPv6

/-- a piece of one to four digits -/
def piece? (s : List Char) : Option UInt16 :=
  if s.isEmpty || 4 < s.length then none
  else (s.mapM hexValue).map fun ds => UInt16.ofNat (ds.foldl (fun n d => 16 * n + d) 0)

/-- a four-byte address as two pieces -/
def ofFour (x : IPv4) : List UInt16 :=
  [UInt16.ofNat (256 * x.a.toNat + x.b.toNat), UInt16.ofNat (256 * x.c.toNat + x.d.toNat)]

/-- pieces, the last of which may be a four-byte address -/
def pieces? : List (List Char) → Option (List UInt16)
  | [] => some []
  | [s] =>
    match piece? s with
    | some n => some [n]
    | none => (IPv4.parse s).map ofFour
  | s :: t :: rest =>
    match piece? s, pieces? (t :: rest) with
    | some n, some ns => some (n :: ns)
    | _, _ => none

/-- the parts of a text with colons between them; an empty text has none -/
def partsOf (s : List Char) : List (List Char) := if s.isEmpty then [] else cut (· == ':') s

/-- what stands before and after the first pair of colons -/
def cutDouble : List Char → Option (List Char × List Char)
  | ':' :: ':' :: s => some ([], s)
  | c :: s => (cutDouble s).map fun (before, after) => (c :: before, after)
  | [] => none

def ofPieces (ns : List UInt16) : Option IPv6 :=
  if h : ns.length = 8 then some ⟨ns, h⟩ else none

def parse (s : List Char) : Option IPv6 :=
  match cutDouble s with
  | none => (pieces? (partsOf s)).bind ofPieces
  | some (before, after) =>
    match (partsOf before).mapM piece?, pieces? (partsOf after) with
    | some head, some tail =>
      if head.length + tail.length ≤ 7 then
        ofPieces (head ++ List.replicate (8 - head.length - tail.length) 0 ++ tail)
      else none
    | _, _ => none

/-- the four-byte address that `::ffff:a.b.c.d` stands for -/
def toFour (x : IPv6) : Option IPv4 :=
  match x.pieces with
  | [0, 0, 0, 0, 0, 0xFFFF, h, l] =>
    some ⟨UInt8.ofNat (h.toNat / 256), UInt8.ofNat (h.toNat % 256),
      UInt8.ofNat (l.toNat / 256), UInt8.ofNat (l.toNat % 256)⟩
  | _ => none

/-- the number of zeros at the start -/
def zeros (ns : List UInt16) : Nat := (ns.takeWhile (· == 0)).length

/-- position and length of the first longest run of zeros, from position `i` on -/
def longestZeros (i : Nat) : List UInt16 → Nat × Nat
  | [] => (i, 0)
  | n :: ns =>
    let here := zeros (n :: ns)
    let later := longestZeros (i + 1) ns
    if later.2 ≤ here then (i, here) else later

def piecesText (ns : List UInt16) : String :=
  ":".intercalate (ns.map fun n => String.ofList (hexNumber n.toNat))

def text (x : IPv6) : String :=
  match x.toFour with
  | some four => "::ffff:" ++ four.text
  | none =>
    let (start, length) := longestZeros 0 x.pieces
    if 2 ≤ length then
      piecesText (x.pieces.take start) ++ "::" ++ piecesText (x.pieces.drop (start + length))
    else piecesText x.pieces

def isLoopback (x : IPv6) : Bool := x.pieces == [0, 0, 0, 0, 0, 0, 0, 1]
def isUnspecified (x : IPv6) : Bool := x.pieces == [0, 0, 0, 0, 0, 0, 0, 0]

end IPv6

end DirectoryClient
