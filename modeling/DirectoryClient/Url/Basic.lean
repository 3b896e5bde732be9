import DirectoryClient.Address.Six

/-!
# URLs

* `Url`        the parts of a URL that routing looks at;
* `Url.Kind`   how the rest of a URL is read: web-like schemes have rules of their own;
* `UrlFlaw`    why a text is no URL.
-/

namespace DirectoryClient

/-- why a text is no URL -/
inductive UrlFlaw
  /-- there is no scheme -/
  | relative
  | invalidPort
  | emptyHost
  | invalidIPv6
  | invalidIPv4
  | invalidHostCharacter
  /-- a host name of a web-like scheme that is no domain name -/
  | invalidDomainName
  deriving DecidableEq, Repr

def UrlFlaw.message : UrlFlaw → String
  | .relative => "relative URL without a base"
  | .invalidPort => "invalid port number"
  | .emptyHost => "empty host"
  | .invalidIPv6 => "invalid IPv6 address"
  | .invalidIPv4 => "invalid IPv4 address"
  | .invalidHostCharacter => "invalid domain character"
  | .invalidDomainName => "invalid international domain name"

inductive Url.Host
  | name (s : String)
  | four (x : IPv4)
  | six (x : IPv6)
  deriving DecidableEq, Repr

/-- the host without brackets -/
def Url.Host.text : Url.Host → String
  | .name s => s
  | .four x => x.text
  | .six x => x.text

/-- The path is percent-encoded and has no dot segments. -/
structure Url where
  scheme : String
  host : Option Url.Host
  port : Option UInt16
  path : String
  deriving DecidableEq, Repr

/-- how the part after the scheme is read -/
inductive Url.Kind
  /-- any scheme without rules of its own -/
  | general
  /-- `http` and the like: a backslash separates too, and a host is needed -/
  | web
  | file
  deriving DecidableEq, Repr

def Url.Kind.of (scheme : String) : Url.Kind :=
  if scheme = "file" then .file
  else if ["http", "https", "ws", "wss", "ftp"].contains scheme then .web
  else .general

/-- whether a character ends the authority -/
def Url.Kind.endsAuthority (k : Url.Kind) (c : Char) : Bool :=
  c == '/' || c == '?' || c == '#' || (c == '\\' && k != .general)

/-- whether a character separates the segments of a path -/
def Url.Kind.separates (k : Url.Kind) (c : Char) : Bool :=
  c == '/' || (c == '\\' && k != .general)

end DirectoryClient
