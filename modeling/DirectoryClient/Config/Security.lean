import DirectoryClient.Text.Blank
import DirectoryClient.Text.Casing

/-!
# How connections are secured

* `Security`          plain, TLS from the start, or TLS by the StartTLS operation;
* `Security.parse?`   its name, in any letter case and with blanks around it; no name means plain.

`parse?_name` reads every name back.
-/

namespace DirectoryClient

open DirectoryClient.Text

inductive Security
  | plain
  | tls
  | startTls
  deriving DecidableEq, Repr, Inhabited

namespace Security

def name : Security → String
  | .plain => "none"
  | .tls => "ssl"
  | .startTls => "starttls"

/-- the name of the variant, as inspection shows it -/
def title : Security → String
  | .plain => "None"
  | .tls => "Ssl"
  | .startTls => "StartTls"

/-- the port used when none is given -/
def defaultPort : Security → UInt16
  | .tls => 636
  | _ => 389

def scheme : Security → String
  | .tls => "ldaps"
  | _ => "ldap"

/-- a name without blanks around it and in lower case -/
def folded (s : String) : String := String.ofList (asciiLower (trim s.toList))

def parse? (s : String) : Option Security :=
  match folded s with
  | "" => some .plain
  | "none" => some .plain
  | "ssl" => some .tls
  | "starttls" => some .startTls
  | _ => none

theorem parse?_name (s : Security) : parse? s.name = some s := by
  cases s <;> decide

end Security

end DirectoryClient
