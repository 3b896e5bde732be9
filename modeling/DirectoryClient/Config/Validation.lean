import DirectoryClient.Config.Basic
import DirectoryClient.ClientError
import DirectoryClient.Dn.Reading
import DirectoryClient.Address.Six

/-!
# Valid configurations

* `hostFlaw`            whether a host points back at the machine itself or at the place where
                        machines in a data centre learn about themselves;
* `ConfigFlaw`          what may be wrong with a configuration, in the order in which it is looked
                        for: the default server first, then the others one by one;
* `Config.flaw`         the first thing that is wrong;
* `Config.validate`     the same as an error.
-/

namespace DirectoryClient

open DirectoryClient.Text

inductive ConfigFlaw
  | hostRequired
  | serverHostRequired (index : Nat)
  | internalAddress (host : String)
  | blockedName (host : String)
  | badDn (field : String) (error : DnError)
  | badBaseContext (error : DnError)
  | unknownSecurity (name : String)
  deriving DecidableEq, Repr

def ConfigFlaw.message : ConfigFlaw → String
  | .hostRequired => "host is required"
  | .serverHostRequired i => "servers[" ++ toString i ++ "].host is required"
  | .internalAddress host => "SSRF protection: internal IP not allowed: " ++ host
  | .blockedName host => "SSRF protection: blocked hostname: " ++ host
  | .badDn field e => field ++ " is not a valid DN: " ++ e.message
  | .badBaseContext e => "invalid base_context: " ++ e.message
  | .unknownSecurity name => "Unknown value for connection_security: " ++ name

def ConfigFlaw.error (f : ConfigFlaw) : ClientError := .invalidConfiguration f.message

/-- a mode of security by its name -/
def Security.ofName (s : String) : Except ConfigFlaw Security :=
  match Security.parse? s with
  | some x => .ok x
  | none => .error (.unknownSecurity (Security.folded s))

/-- the names that no directory server has, nor any name below them -/
def blockedNames : List String := ["localhost", "metadata.google.internal", "metadata.goog"]

def isBlockedFour (x : IPv4) : Bool :=
  x.isLoopback || x.isLinkLocal || x.isBroadcast || x.isUnspecified

def isBlockedSix (x : IPv6) : Bool := x.isLoopback || x.isUnspecified

/-- whether a name in lower case is `blocked` or below it -/
def isNameUnder (blocked name : List Char) : Bool :=
  name == blocked || ('.' :: blocked).isSuffixOf name

def hostFlaw (host : String) : Option ConfigFlaw :=
  match IPv4.parse host.toList, IPv6.parse host.toList with
  | some x, _ => if isBlockedFour x then some (.internalAddress host) else none
  | none, some x => if isBlockedSix x then some (.internalAddress host) else none
  | none, none =>
    if blockedNames.any fun b => isNameUnder b.toList (lowercase host.toList) then
      some (.blockedName host)
    else none

/-- what is wrong with a text that should be a name -/
def dnFlaw (field text : String) : Option ConfigFlaw :=
  match Dn.parse text with
  | .ok _ => none
  | .error e => some (.badDn field e)

namespace ServerConfig

/-- the first thing wrong with the server at a position -/
def flaw (index : Nat) (s : ServerConfig) : Option ConfigFlaw :=
  if blank s.host then some (.serverHostRequired index)
  else hostFlaw s.host
    <|> s.baseContext.bind (dnFlaw "servers[].base_context")
    <|> (s.bindDn.filter (· ≠ "")).bind (dnFlaw "servers[].bind_dn")

end ServerConfig

namespace Config

/-- the first thing wrong with the servers from a position on -/
def serversFlaw (index : Nat) : List ServerConfig → Option ConfigFlaw
  | [] => none
  | s :: rest => s.flaw index <|> serversFlaw (index + 1) rest

def flaw (c : Config) : Option ConfigFlaw :=
  if blank c.host then some .hostRequired
  else hostFlaw c.host
    <|> (if c.bindDn = "" then none else dnFlaw "bind_dn" c.bindDn)
    <|> c.baseContext.bind (dnFlaw "base_context")
    <|> serversFlaw 0 c.servers

def validate (c : Config) : Except ClientError Unit :=
  match c.flaw with
  | some f => .error f.error
  | none => .ok ()

/-- whether validation ends with a warning about certificates -/
def warns (c : Config) : Bool := c.flaw.isNone && c.tls.isUnsafe

end Config

end DirectoryClient
