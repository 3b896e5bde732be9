import DirectoryClient.Config.Security
import DirectoryClient.Retry

/-!
# The configuration of a client

* `Timeouts`           how long to wait for a connection and for an operation, in seconds;
* `Tls`                what secured connections accept;
* `ReferralStrategy`   what a search does with a referral;
* `ServerConfig`       one more server; what it leaves out comes from the configuration;
* `Config`             the default server and everything else.
-/

namespace DirectoryClient

structure Timeouts where
  connection : UInt64 := 30
  /-- zero means no limit -/
  operation : UInt64 := 120
  deriving DecidableEq

/-- the limit of an operation, if there is one -/
def Timeouts.operation? (t : Timeouts) : Option UInt64 :=
  if t.operation = 0 then none else some t.operation

structure Tls where
  verifyCertificate : Bool := true
  caCertPath : Option String := none
  sslProtocol : Option String := none
  enabledProtocols : List String := []
  enabledCipherSuites : List String := []
  deriving DecidableEq

/-- whether a warning is due because any certificate passes -/
def Tls.isUnsafe (t : Tls) : Bool := !t.verifyCertificate

inductive ReferralStrategy
  /-- a referral is an error -/
  | throw
  | follow
  /-- a referral ends the search -/
  | ignore
  deriving DecidableEq, Repr

namespace ReferralStrategy

def all : List ReferralStrategy := [.throw, .follow, .ignore]

def name : ReferralStrategy → String
  | .throw => "throw"
  | .follow => "follow"
  | .ignore => "ignore"

/-- the name of the variant -/
def title : ReferralStrategy → String
  | .throw => "Throw"
  | .follow => "Follow"
  | .ignore => "Ignore"

def named? (s : String) : Option ReferralStrategy := all.find? fun x => x.name == s

end ReferralStrategy

structure ServerConfig where
  host : String := ""
  port : Option UInt16 := none
  security : Option Security := none
  baseContext : Option String := none
  bindDn : Option String := none
  bindPassword : Option String := none
  connectTimeout : Option UInt64 := none
  deriving DecidableEq

structure Config where
  host : String := ""
  port : Option UInt16 := none
  security : Security := .plain
  baseContext : Option String := none
  /-- empty for an anonymous bind -/
  bindDn : String := ""
  bindPassword : Option String := none
  timeouts : Timeouts := {}
  tls : Tls := {}
  servers : List ServerConfig := []
  referralStrategy : ReferralStrategy := .follow
  allowPartialResults : Bool := false
  sizeLimit : Int32 := 0
  timeLimit : Int32 := 0
  binaryAttributes : List String := []
  retry : RetryPolicy := {}

namespace Config

/-- the port of the default server -/
def effectivePort (c : Config) : UInt16 := c.port.getD c.security.defaultPort

/-- the URL of the default server -/
def url (c : Config) : String :=
  c.security.scheme ++ "://" ++ c.host ++ ":" ++ toString c.effectivePort.toNat

/-- the secrets in a configuration, by the names of their fields -/
def credentials (c : Config) : List (String × String) :=
  (c.bindPassword.toList.map fun p => ("bind_password", p)) ++
    (c.servers.filterMap (·.bindPassword)).map fun p => ("servers.bind_password", p)

end Config

end DirectoryClient
