import DirectoryClient.Config.Security
import DirectoryClient.Dn.Reading
import DirectoryClient.Url.Reading

/-!
# LDAP URLs and referrals

* `LdapUrl`         what routing takes from an `ldap` or `ldaps` URL: security, host, port and the
                    base name; attributes, scope and filter are passed over;
* `LdapUrl.parse`   the reading, with `LdapUrlError` for what may go wrong;
* `LdapUrl.dn`      the base name as a distinguished name;
* `Referral`        the URLs that a server gives in place of a result.
-/

namespace DirectoryClient

open DirectoryClient.Text

inductive LdapUrlFlaw
  | url (flaw : UrlFlaw)
  | unsupportedScheme (scheme : String)
  | missingHost
  | baseNotText (fault : Utf8.Fault)
  deriving DecidableEq, Repr

def LdapUrlFlaw.message : LdapUrlFlaw → String
  | .url flaw => flaw.message
  | .unsupportedScheme s => "unsupported scheme '" ++ s ++ "'"
  | .missingHost => "missing host"
  | .baseNotText fault => "base DN is not valid UTF-8: " ++ fault.message

structure LdapUrlError where
  url : String
  flaw : LdapUrlFlaw
  deriving DecidableEq, Repr

def LdapUrlError.message (e : LdapUrlError) : String :=
  "invalid LDAP URL '" ++ e.url ++ "': " ++ e.flaw.message

structure LdapUrl where
  /-- the URL as given, without blanks around it -/
  text : String
  secure : Bool
  host : String
  port : UInt16
  /-- the percent-decoded base name; empty if there is none -/
  base : String
  deriving DecidableEq, Repr

namespace LdapUrl

/-- whether a scheme asks for TLS, if it is one of the two -/
def secureScheme? (scheme : String) : Option Bool :=
  if scheme = "ldap" then some false else if scheme = "ldaps" then some true else none

/-- the bytes of the base name: the path without its slashes at the start, decoded -/
def baseBytes (path : String) : List UInt8 :=
  Percent.decode (Utf8.encode (path.toList.dropWhile (· == '/')))

def ofUrl (text : String) (u : Url) : Except LdapUrlFlaw LdapUrl :=
  match secureScheme? u.scheme, u.host with
  | none, _ => .error (.unsupportedScheme u.scheme)
  | some _, none => .error .missingHost
  | some secure, some host =>
    match Utf8.decode (baseBytes u.path) with
    | .error fault => .error (.baseNotText fault)
    | .ok base =>
      let port := u.port.getD (if secure then Security.tls else Security.plain).defaultPort
      .ok ⟨text, secure, host.text, port, String.ofList base⟩

/-- errors show the text as given -/
def parse (text : String) : Except LdapUrlError LdapUrl :=
  match (Url.parse (trimmed text)).mapError .url |>.bind (ofUrl (trimmed text)) with
  | .ok u => .ok u
  | .error flaw => .error ⟨text, flaw⟩

/-- none if the URL has no base name -/
def dn (u : LdapUrl) : Except DnError (Option Dn) :=
  if u.base.isEmpty then .ok none else (Dn.parse u.base).map some

end LdapUrl

structure Referral where
  urls : List String
  deriving DecidableEq, Repr

namespace Referral

def isEmpty (r : Referral) : Bool := r.urls.isEmpty

def text (r : Referral) : String := "[" ++ ", ".intercalate r.urls ++ "]"

end Referral

end DirectoryClient
