import DirectoryClient.Config.Validation
import DirectoryClient.Json.Printer
import DirectoryClient.Json.Record

/-!
# Configurations as JSON

* `toJson`    the written form, fields in the order of their declaration; an option without a value
              is left out;
* `ofJson`    the reading; every field but the host has a default, and a text that names no mode of
              security is refused.
-/

namespace DirectoryClient

open DirectoryClient.Json

/-- a member that is left out if there is no value -/
def optionalMember {α : Type} (name : String) (write : α → Json) : Option α → List (String × Json)
  | some a => [(name, write a)]
  | none => []

/-! ## writing -/

def wordJson (n : UInt64) : Json := .int n.toNat
def portJson (n : UInt16) : Json := .int n.toNat

def Security.toJson (s : Security) : Json := .str s.name
def ReferralStrategy.toJson (s : ReferralStrategy) : Json := .str s.name

def Timeouts.toJson (t : Timeouts) : Json :=
  .obj [("connection_timeout_secs", wordJson t.connection),
    ("operation_timeout_secs", wordJson t.operation)]

def Tls.toJson (t : Tls) : Json :=
  .obj ([("verify_certificate", .bool t.verifyCertificate)] ++
    optionalMember "ca_cert_path" .str t.caCertPath ++
    optionalMember "ssl_protocol" .str t.sslProtocol ++
    [("enabled_protocols", .strings t.enabledProtocols),
      ("enabled_cipher_suites", .strings t.enabledCipherSuites)])

def RetryPolicy.toJson (p : RetryPolicy) : Json :=
  .obj (optionalMember "max_attempts" (fun n => .int n.toNat) p.maxAttempts ++
    [("initial_delay_ms", wordJson p.initialDelay), ("max_delay_ms", wordJson p.maxDelay),
      ("backoff_multiplier", .float p.multiplier), ("jitter", .bool p.jitter)])

def ServerConfig.toJson (s : ServerConfig) : Json :=
  .obj ([("host", .str s.host)] ++ optionalMember "port" portJson s.port ++
    optionalMember "connection_security" Security.toJson s.security ++
    optionalMember "base_context" .str s.baseContext ++
    optionalMember "bind_dn" .str s.bindDn ++
    optionalMember "bind_password" .str s.bindPassword ++
    optionalMember "connect_timeout_secs" wordJson s.connectTimeout)

def Config.toJson (c : Config) : Json :=
  .obj ([("host", .str c.host)] ++ optionalMember "port" portJson c.port ++
    [("connection_security", c.security.toJson)] ++
    optionalMember "base_context" .str c.baseContext ++
    [("bind_dn", .str c.bindDn)] ++
    optionalMember "bind_password" .str c.bindPassword ++
    [("connection", c.timeouts.toJson), ("tls", c.tls.toJson),
      ("servers", .arr (c.servers.map ServerConfig.toJson)),
      ("referral_strategy", c.referralStrategy.toJson),
      ("allow_partial_results", .bool c.allowPartialResults),
      ("size_limit", .int c.sizeLimit.toInt), ("time_limit", .int c.timeLimit.toInt),
      ("binary_attributes", .strings c.binaryAttributes), ("retry", c.retry.toJson)])

/-! ## reading -/

def Security.ofJson (j : Json) : Reading Security :=
  (asString j).bind fun s =>
    match Security.ofName s with
    | .ok x => .ok x
    | .error flaw => .error (.refused flaw.error.message)

/-- A strategy is given by its name, or as the one member of an object whose value is null. -/
def ReferralStrategy.ofJson (j : Json) : Reading ReferralStrategy :=
  let named (s : String) : Reading ReferralStrategy :=
    match ReferralStrategy.named? s with
    | some x => .ok x
    | none => .error (.unknownVariant s (ReferralStrategy.all.map (·.name)))
  match j with
  | .str s => named s
  | .obj [(s, value)] =>
    (named s).bind fun x =>
      match value with
      | .null => .ok x
      | v => .error (.invalidType v "unit")
  | .obj _ => .error (.invalidValue j "map with a single key")
  | _ => .error (.invalidType j "string or map")

def Timeouts.shape : Shape Timeouts where
  name := "ConnectionSettings"
  declared := ["connection_timeout_secs", "operation_timeout_secs"]
  fields := [
    .of "connection_timeout_secs" asUInt64 fun n t => { t with connection := n },
    .of "operation_timeout_secs" asUInt64 fun n t => { t with operation := n }]

def Timeouts.ofJson : Json → Reading Timeouts := Timeouts.shape.read {}

def Tls.shape : Shape Tls where
  name := "TlsConfig"
  declared := ["verify_certificate", "ca_cert_path", "ssl_protocol", "enabled_protocols",
    "enabled_cipher_suites"]
  fields := [
    .of "ca_cert_path" (asOption asString) fun s t => { t with caCertPath := s },
    .of "enabled_cipher_suites" (asList asString) fun l t => { t with enabledCipherSuites := l },
    .of "enabled_protocols" (asList asString) fun l t => { t with enabledProtocols := l },
    .of "ssl_protocol" (asOption asString) fun s t => { t with sslProtocol := s },
    .of "verify_certificate" asBool fun b t => { t with verifyCertificate := b }]

def Tls.ofJson : Json → Reading Tls := Tls.shape.read {}

def RetryPolicy.shape : Shape RetryPolicy where
  name := "RetryConfig"
  declared := ["max_attempts", "initial_delay_ms", "max_delay_ms", "backoff_multiplier", "jitter"]
  fields := [
    .of "backoff_multiplier" asFloat fun x p => { p with multiplier := x },
    .of "initial_delay_ms" asUInt64 fun n p => { p with initialDelay := n },
    .of "jitter" asBool fun b p => { p with jitter := b },
    .of "max_attempts" (asOption asUInt32) fun n p => { p with maxAttempts := n },
    .of "max_delay_ms" asUInt64 fun n p => { p with maxDelay := n }]

def RetryPolicy.ofJson : Json → Reading RetryPolicy := RetryPolicy.shape.read {}

def ServerConfig.shape : Shape ServerConfig where
  name := "ServerConfig"
  declared := ["host", "port", "connection_security", "base_context", "bind_dn", "bind_password",
    "connect_timeout_secs"]
  fields := [
    .of "base_context" (asOption asString) fun s c => { c with baseContext := s },
    .of "bind_dn" (asOption asString) fun s c => { c with bindDn := s },
    .of "bind_password" (asOption asString) fun s c => { c with bindPassword := s },
    .of "connect_timeout_secs" (asOption asUInt64) fun n c => { c with connectTimeout := n },
    .of "connection_security" (asOption Security.ofJson) fun s c => { c with security := s },
    { Field.of "host" asString fun s c => { c with host := s } with required := true },
    .of "port" (asOption asUInt16) fun n c => { c with port := n }]

def ServerConfig.ofJson : Json → Reading ServerConfig := ServerConfig.shape.read {}

def Config.shape : Shape Config where
  name := "LdapConfig"
  declared := ["host", "port", "connection_security", "base_context", "bind_dn", "bind_password",
    "connection", "tls", "servers", "referral_strategy", "allow_partial_results", "size_limit",
    "time_limit", "binary_attributes", "retry"]
  fields := [
    .of "allow_partial_results" asBool fun b c => { c with allowPartialResults := b },
    .of "base_context" (asOption asString) fun s c => { c with baseContext := s },
    .of "binary_attributes" (asList asString) fun l c => { c with binaryAttributes := l },
    .of "bind_dn" asString fun s c => { c with bindDn := s },
    .of "bind_password" (asOption asString) fun s c => { c with bindPassword := s },
    .of "connection" Timeouts.ofJson fun t c => { c with timeouts := t },
    .of "connection_security" Security.ofJson fun s c => { c with security := s },
    { Field.of "host" asString fun s c => { c with host := s } with required := true },
    .of "port" (asOption asUInt16) fun n c => { c with port := n },
    .of "referral_strategy" ReferralStrategy.ofJson fun s c => { c with referralStrategy := s },
    .of "retry" RetryPolicy.ofJson fun p c => { c with retry := p },
    .of "servers" (asList ServerConfig.ofJson) fun l c => { c with servers := l },
    .of "size_limit" asInt32 fun n c => { c with sizeLimit := n },
    .of "time_limit" asInt32 fun n c => { c with timeLimit := n },
    .of "tls" Tls.ofJson fun t c => { c with tls := t }]

def Config.ofJson : Json → Reading Config := Config.shape.read {}

end DirectoryClient
