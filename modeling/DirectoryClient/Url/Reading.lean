import DirectoryClient.Text.Casing
import DirectoryClient.Url.Domain
import DirectoryClient.Url.Path

/-!
# Reading URLs

The text loses the control characters and spaces around it and every tab and line break inside it.
Then come the scheme, the authority after two slashes, and the path up to a question mark or a
number sign.

* `cutScheme`      the scheme, in lower case, and what follows its colon;
* `parseHost`      a host: brackets hold an address of eight pieces, all else is a name;
* `parsePort`      a port and what follows it;
* `Authority`      what an authority says;
* `Url.parse`      the URL.
-/

namespace DirectoryClient.Url

open DirectoryClient.Text

/-- the text without what surrounds a URL and without the characters that are passed over inside -/
def strip (s : List Char) : List Char :=
  (dropEndWhile (·.toNat ≤ 0x20) (s.dropWhile (·.toNat ≤ 0x20))).filter fun c =>
    c != '\t' && c != '\n' && c != '\r'

def isSchemeChar (c : Char) : Bool := c.isAlphanum || c == '+' || c == '-' || c == '.'

def cutScheme (s : List Char) : Option (List Char × List Char) :=
  match s.takeWhile isSchemeChar, s.dropWhile isSchemeChar with
  | c :: scheme, ':' :: rest => if c.isAlpha then some (asciiLower (c :: scheme), rest) else none
  | _, _ => none

/-- the characters that no host holds -/
def forbiddenInHost (c : Char) : Bool :=
  ['\x00', '\t', '\n', '\r', ' ', '#', '/', ':', '<', '>', '?', '@', '[', '\\', ']', '^', '|'].contains c

/-- the characters that a host name writes as themselves -/
def keptInHost (c : Char) : Bool := 0x20 ≤ c.toNat && c.toNat < 0x7F

def parseBracketed (s : List Char) : Except UrlFlaw Host :=
  if s.getLast? = some ']' then
    match IPv6.parse s.dropLast with
    | some x => .ok (.six x)
    | none => .error .invalidIPv6
  else .error .invalidIPv6

/-- a host name that is kept as written, percent-encoded beyond ASCII -/
def parseOpaque (s : List Char) : Except UrlFlaw Host :=
  if s.any forbiddenInHost then .error .invalidHostCharacter
  else .ok (.name (String.ofList (Percent.encode keptInHost s)))

def parseHost (k : Kind) : List Char → Except UrlFlaw Host
  | '[' :: s => parseBracketed s
  | s => if k = .general then parseOpaque s else parseDomain s

/-- the host at the start of an authority and what follows it; a colon in brackets belongs to it -/
def cutHost (k : Kind) (inBrackets : Bool) : List Char → List Char × List Char
  | [] => ([], [])
  | c :: s =>
    if (c == ':' && !inBrackets) || k.endsAuthority c then ([], c :: s)
    else
      let (host, rest) := cutHost k (c == '[' || (inBrackets && c != ']')) s
      (c :: host, rest)

def portEnds (c : Char) : Bool := c == '/' || c == '\\' || c == '?' || c == '#'

/-- no digits mean no port -/
def parsePort (s : List Char) : Except UrlFlaw (Option UInt16 × List Char) :=
  let ds := s.takeWhile Char.isDigit
  let rest := s.dropWhile Char.isDigit
  let n := ds.foldl (fun n c => 10 * n + (c.toNat - 48)) 0
  if UInt16.size ≤ n then .error .invalidPort
  else if rest.head?.any fun c => !portEnds c then .error .invalidPort
  else .ok (if ds.isEmpty then none else some (UInt16.ofNat n), rest)

/-- what an authority says, and the text after it -/
structure Authority where
  host : Option Host
  port : Option UInt16
  rest : List Char

/-- the user information before the last `@` of an authority, and what follows it -/
def cutUser (k : Kind) (s : List Char) : Option (List Char) × List Char :=
  let authority := s.takeWhile fun c => !k.endsAuthority c
  let rest := s.dropWhile fun c => !k.endsAuthority c
  match cutLast (· == '@') authority with
  | some (user, host) => (some user, host ++ rest)
  | none => (none, s)

/-- A name needs a host if it has a port or a user, or if the scheme is web-like. -/
def parseAuthority (k : Kind) (s : List Char) : Except UrlFlaw Authority := do
  let (user, s) := cutUser k s
  if user = some [] ∧ s.head?.any k.endsAuthority then .error .emptyHost
  let (written, rest) := cutHost k false s
  if k = .web ∧ written.isEmpty then .error .emptyHost
  let host ← parseHost k written
  let nameless := host == .name ""
  if nameless ∧ rest.head? = some ':' then .error .emptyHost
  let (port, rest) ← match rest with
    | ':' :: r => parsePort r
    | _ => pure (none, rest)
  if nameless ∧ user.any fun u => u != [] && u != [':'] then .error .emptyHost
  return ⟨if nameless then none else some host, port, rest⟩

/-- the authority of a file URL is a host or nothing -/
def parseFileHost (s : List Char) : Except UrlFlaw Authority := do
  let written := s.takeWhile fun c => !Kind.endsAuthority .file c
  let rest := s.dropWhile fun c => !Kind.endsAuthority .file c
  if written.isEmpty then return ⟨none, none, rest⟩
  else if isDrive written then return ⟨none, none, s⟩
  else return ⟨some (← parseHost .file written), none, rest⟩

/-- the text up to a query or a fragment -/
def beforeQuery (s : List Char) : List Char := s.takeWhile fun c => c != '?' && c != '#'

/-- the URL whose scheme has been read -/
def parseAfterScheme (scheme : String) (s : List Char) : Except UrlFlaw Url := do
  let k := Kind.of scheme
  let build (a : Authority) : Url :=
    ⟨scheme, a.host, a.port, String.ofList (pathText k (beforeQuery a.rest))⟩
  match k, s with
  | .web, _ => return build (← parseAuthority k (s.dropWhile k.separates))
  | .file, a :: b :: r =>
    if k.separates a && k.separates b then return build (← parseFileHost r)
    else return build ⟨none, none, s⟩
  | .general, '/' :: '/' :: r => return build (← parseAuthority k r)
  | .general, '/' :: _ => return build ⟨none, none, s⟩
  | .general, _ =>
    return ⟨scheme, none, none, String.ofList (Percent.encode keptInHost (beforeQuery s))⟩
  | .file, _ => return build ⟨none, none, s⟩

end DirectoryClient.Url

namespace DirectoryClient

def Url.parse (text : String) : Except UrlFlaw Url :=
  match Url.cutScheme (Url.strip text.toList) with
  | some (scheme, rest) => Url.parseAfterScheme (String.ofList scheme) rest
  | none => .error .relative

end DirectoryClient
