import DirectoryClient.Classifier
import DirectoryClient.Config.Redaction
import DirectoryClient.Config.Validation
import DirectoryClient.Dn.Schema
import DirectoryClient.Request

/-!
# Server records

A record describes one directory server: how to reach it, whose part of the tree it holds, and whom
to bind as.

* `ServerRecord.ofConfig`    the default server;
* `ServerRecord.ofServer`    another configured server; what it leaves out is inherited;
* `ServerRecord.ofReferral`  a server that a referral names, with the credentials of a template;
* `covers`                   whether a record describes the target of a URL;
* `bindRequest`, `settings`  what connecting needs;
* `text`, `inspect`          two renderings, neither of which shows the secret.
-/

namespace DirectoryClient

open DirectoryClient.Text

inductive Origin
  | configured
  | referral
  deriving DecidableEq, Repr

def Origin.name : Origin → String
  | .configured => "configured"
  | .referral => "referral"

/-- the name of the variant -/
def Origin.title : Origin → String
  | .configured => "Configured"
  | .referral => "Referral"

structure ServerRecord where
  host : String
  port : UInt16
  security : Security
  /-- in seconds -/
  connectTimeout : UInt64
  operationTimeout : Option UInt64
  tls : Tls
  /-- the name above all names that the server holds -/
  baseContext : Option Dn
  bindDn : String
  bindSecret : Option Secret
  origin : Origin
  deriving DecidableEq

/-- whether two names that may be missing are the same -/
def sameContext : Option Dn → Option Dn → Bool
  | none, none => true
  | some a, some b => a.same b
  | _, _ => false

/-- the qualified name of a configured context; a blank one counts as none -/
def contextOf (schema : Schema) (text : Option String) : Except ConfigFlaw (Option Dn) :=
  match text with
  | none => .ok none
  | some t =>
    if blank t then .ok none
    else match schema.parseQualified (trimmed t) with
      | .ok d => .ok (some d)
      | .error e => .error (.badBaseContext e)

/-- the base name of a URL, qualified if possible; none if it cannot be parsed -/
def contextOfUrl (schema : Schema) (url : LdapUrl) : Option Dn :=
  match url.dn with
  | .ok (some d) =>
    match schema.qualify d with
    | .ok q => some q
    | .error _ => some d
  | _ => none

namespace ServerRecord

def ofConfig (schema : Schema) (c : Config) : Except ConfigFlaw ServerRecord :=
  (contextOf schema c.baseContext).map fun context =>
    { host := c.host
      port := c.effectivePort
      security := c.security
      connectTimeout := c.timeouts.connection
      operationTimeout := c.timeouts.operation?
      tls := c.tls
      baseContext := context
      bindDn := c.bindDn
      bindSecret := c.bindPassword.map Secret.mk
      origin := .configured }

def ofServer (schema : Schema) (c : Config) (s : ServerConfig) : Except ConfigFlaw ServerRecord :=
  let security := s.security.getD c.security
  (contextOf schema s.baseContext).map fun context =>
    { host := s.host
      port := s.port.getD security.defaultPort
      security := security
      connectTimeout := s.connectTimeout.getD c.timeouts.connection
      operationTimeout := c.timeouts.operation?
      tls := c.tls
      baseContext := context
      bindDn := s.bindDn.getD c.bindDn
      bindSecret := (s.bindPassword.or c.bindPassword).map Secret.mk
      origin := .configured }

/-- `ldaps` means TLS; otherwise StartTLS is used where the template uses it. -/
def ofReferral (schema : Schema) (template : ServerRecord) (url : LdapUrl) : ServerRecord :=
  { template with
    host := url.host
    port := url.port
    security :=
      if url.secure then .tls else if template.security = .startTls then .startTls else .plain
    baseContext := contextOfUrl schema url
    origin := .referral }

def isReferral (r : ServerRecord) : Bool := r.origin == .referral

/-- whether the record describes the target of a URL -/
def covers (schema : Schema) (r : ServerRecord) (url : LdapUrl) : Bool :=
  sameIgnoringCase r.host url.host && r.port == url.port &&
    sameContext r.baseContext (contextOfUrl schema url)

/-- Without a secret the password is empty. -/
def bindRequest (r : ServerRecord) : BindRequest :=
  ⟨r.bindDn, match r.bindSecret with
    | some s => s.access id
    | none => ""⟩

def settings (binary : BinaryAttributes) (r : ServerRecord) : Settings :=
  ⟨r.host, r.port, r.security, r.connectTimeout, r.operationTimeout, r.tls, binary⟩

def contextText (r : ServerRecord) : String := (r.baseContext.map (·.text)).getD ""

def text (r : ServerRecord) : String :=
  r.security.scheme ++ "://" ++ endpoint r.host r.port ++ "/" ++ r.contextText ++
    " (" ++ r.origin.name ++ ")"

def inspect (r : ServerRecord) : Inspection :=
  .record "ServerRecord"
    [("host", .string r.host), ("port", .ofNat r.port.toNat), ("security", r.security.inspect),
      ("base_context", .ofOption (fun d => .string d.text) r.baseContext),
      ("bind_dn", .string r.bindDn), ("bind_secret", .ofOption Secret.inspect r.bindSecret),
      ("origin", .word r.origin.title)] false

end ServerRecord

end DirectoryClient
