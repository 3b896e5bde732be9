import DirectoryClient.Config.Basic
import DirectoryClient.Entry
import DirectoryClient.Failure
import DirectoryClient.LdapUrl
import DirectoryClient.Secret

/-!
# What the client sends and receives

* `Settings`        what opens a connection;
* `BindRequest`     a simple bind; its inspection does not show the password (`inspect_password`);
* `SearchRequest`   a search with its limits;
* `Response`        one response to a search.
-/

namespace DirectoryClient

structure Settings where
  host : String
  port : UInt16
  security : Security
  /-- in seconds -/
  connectTimeout : UInt64
  operationTimeout : Option UInt64
  tls : Tls
  binary : BinaryAttributes
  deriving DecidableEq

/-- the URL that is dialled -/
def Settings.url (s : Settings) : String :=
  s.security.scheme ++ "://" ++ s.host ++ ":" ++ toString s.port.toNat

structure BindRequest where
  dn : String
  password : String
  deriving DecidableEq

namespace BindRequest

def inspect (r : BindRequest) : Inspection :=
  .record "BindRequest" [("dn", .string r.dn), ("password", .string redactedText)] true

theorem inspect_password (dn p q : String) : inspect ⟨dn, p⟩ = inspect ⟨dn, q⟩ := rfl

end BindRequest

inductive Scope
  | base
  | oneLevel
  | subtree
  deriving DecidableEq, Repr

/-- the name of the variant -/
def Scope.title : Scope → String
  | .base => "Base"
  | .oneLevel => "OneLevel"
  | .subtree => "Subtree"

/-- Zero limits mean no limit. -/
structure SearchRequest where
  base : String
  scope : Scope
  filter : String
  attributes : List String
  sizeLimit : Int32 := 0
  timeLimit : Int32 := 0
  /-- in seconds -/
  timeout : Option UInt64 := none
  deriving DecidableEq

inductive Response
  | entry (e : Entry)
  /-- URLs at which the search may be continued -/
  | reference (urls : List String)
  | intermediate
  deriving DecidableEq, Repr

end DirectoryClient
