import DirectoryClient.Url.Basic
import DirectoryClient.Domain.Name
import DirectoryClient.Percent

/-!
# Host names of web-like schemes

Such a host is a domain name or an address of four bytes, each of which may be written in decimal,
octal or hexadecimal and the last of which may stand for several.

* `domainName`    the domain name that a written host stands for, as it is folded;
* `endsInNumber`  whether its last label is a number, so that the host must be an address;
* `looseFour`     that address;
* `parseDomain`   the host.
-/

namespace DirectoryClient.Url

open DirectoryClient.Text

/-- the characters that no domain name holds -/
def forbiddenInDomain (c : Char) : Bool :=
  c.toNat ≤ 0x20 || c.toNat = 0x7F ||
    ['%', '#', '/', ':', '<', '>', '?', '@', '[', '\\', ']', '^', '|'].contains c

def domainName (s : List Char) : Except UrlFlaw (List Char) :=
  match Utf8.decode (Percent.decode (Utf8.encode s)) with
  | .error _ => .error .invalidDomainName
  | .ok t =>
    match Domain.read t with
    | some name => if name.any forbiddenInDomain then .error .invalidDomainName else .ok name
    | none => .error .invalidDomainName

/-- the number that a label writes: none if it writes none, an address piece of its own otherwise -/
def number? (s : List Char) : Option Nat :=
  let value (base : Nat) (ds : List Char) : Option Nat :=
    (ds.mapM fun c => (hexValue c).bind fun n => if n < base then some n else none).map
      fun ns => ns.foldl (fun n d => base * n + d) 0
  match s with
  | [] => none
  | '0' :: 'x' :: ds => value 16 ds
  | '0' :: 'X' :: ds => value 16 ds
  | '0' :: d :: ds => value 8 (d :: ds)
  | ds => value 10 ds

/-- the labels, without an empty one at the end -/
def labels (s : List Char) : List (List Char) :=
  let ls := cut (· == '.') s
  if ls.getLast? = some [] then ls.dropLast else ls

def endsInNumber (s : List Char) : Bool :=
  match (labels s).getLast? with
  | some l => (!l.isEmpty && l.all Char.isDigit) || (number? l).isSome
  | none => false

def looseFour (s : List Char) : Except UrlFlaw IPv4 :=
  match (labels s).mapM number? with
  | none => .error .invalidIPv4
  | some ns =>
    let k := ns.length
    let last := ns.getLast?.getD 0
    let others := ns.dropLast
    if k = 0 ∨ 4 < k ∨ Nat.pow 256 (5 - k) ≤ last ∨ others.any (255 < ·) then .error .invalidIPv4
    else
      let n := others.zipIdx.foldl (fun n (x, i) => n + x * Nat.pow 256 (3 - i)) last
      let byte (i : Nat) : UInt8 := UInt8.ofNat (n / Nat.pow 256 (3 - i) % 256)
      .ok ⟨byte 0, byte 1, byte 2, byte 3⟩

def parseDomain (s : List Char) : Except UrlFlaw Host := do
  let name ← domainName s
  if name.isEmpty then .error .emptyHost
  else if endsInNumber name then return .four (← looseFour name)
  else return .name (String.ofList name)

end DirectoryClient.Url
