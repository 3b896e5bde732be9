import DirectoryClient.Config.Basic
import DirectoryClient.Secret

/-!
# Configurations without their secrets

* `redacted`   the same configuration with a fixed text in the place of every password;
* `inspect`    the inspection text of the parts of a configuration.

`inspect_redacted` says that redaction changes nothing that inspection shows.
-/

namespace DirectoryClient

/-- a password that is there, without its value -/
def redactedPassword (p : Option String) : Option String := p.map fun _ => redactedText

def Security.inspect (s : Security) : Inspection := .word s.title
def ReferralStrategy.inspect (s : ReferralStrategy) : Inspection := .word s.title

def Timeouts.inspect (t : Timeouts) : Inspection :=
  .record "ConnectionSettings"
    [("connection_timeout_secs", .ofNat t.connection.toNat),
      ("operation_timeout_secs", .ofNat t.operation.toNat)] true

def Tls.inspect (t : Tls) : Inspection :=
  .record "TlsConfig"
    [("verify_certificate", .ofBool t.verifyCertificate),
      ("ca_cert_path", .ofOption .string t.caCertPath),
      ("ssl_protocol", .ofOption .string t.sslProtocol),
      ("enabled_protocols", .ofStrings t.enabledProtocols),
      ("enabled_cipher_suites", .ofStrings t.enabledCipherSuites)] true

def RetryPolicy.inspect (p : RetryPolicy) : Inspection :=
  .record "RetryConfig"
    [("max_attempts", .ofOption (fun n => .ofNat n.toNat) p.maxAttempts),
      ("initial_delay_ms", .ofNat p.initialDelay.toNat),
      ("max_delay_ms", .ofNat p.maxDelay.toNat),
      ("backoff_multiplier", .ofFloat p.multiplier), ("jitter", .ofBool p.jitter)] true

namespace ServerConfig

def redacted (s : ServerConfig) : ServerConfig :=
  { s with bindPassword := redactedPassword s.bindPassword }

def inspect (s : ServerConfig) : Inspection :=
  .record "ServerConfig"
    [("host", .string s.host), ("port", .ofOption (fun n => .ofNat n.toNat) s.port),
      ("connection_security", .ofOption Security.inspect s.security),
      ("base_context", .ofOption .string s.baseContext),
      ("bind_dn", .ofOption .string s.bindDn),
      ("bind_password", .ofOption .string (redactedPassword s.bindPassword)),
      ("connect_timeout_secs", .ofOption (fun n => .ofNat n.toNat) s.connectTimeout)] true

theorem inspect_redacted (s : ServerConfig) : s.redacted.inspect = s.inspect := by
  cases h : s.bindPassword <;> simp [inspect, redacted, redactedPassword, h]

end ServerConfig

namespace Config

def redacted (c : Config) : Config :=
  { c with
    bindPassword := redactedPassword c.bindPassword
    servers := c.servers.map ServerConfig.redacted }

def inspect (c : Config) : Inspection :=
  .record "LdapConfig"
    [("host", .string c.host), ("port", .ofOption (fun n => .ofNat n.toNat) c.port),
      ("connection_security", c.security.inspect),
      ("base_context", .ofOption .string c.baseContext), ("bind_dn", .string c.bindDn),
      ("bind_password", .ofOption .string (redactedPassword c.bindPassword)),
      ("connection", c.timeouts.inspect), ("tls", c.tls.inspect),
      ("servers", .list (c.servers.map ServerConfig.inspect)),
      ("referral_strategy", c.referralStrategy.inspect),
      ("allow_partial_results", .ofBool c.allowPartialResults),
      ("size_limit", .ofInt c.sizeLimit.toInt), ("time_limit", .ofInt c.timeLimit.toInt),
      ("binary_attributes", .ofStrings c.binaryAttributes), ("retry", c.retry.inspect)] true

theorem inspect_redacted (c : Config) : c.redacted.inspect = c.inspect := by
  have hs : (c.servers.map ServerConfig.redacted).map ServerConfig.inspect =
      c.servers.map ServerConfig.inspect := by
    rw [List.map_map]
    exact List.map_congr_left fun s _ => s.inspect_redacted
  have hp : redactedPassword (redactedPassword c.bindPassword) = redactedPassword c.bindPassword := by
    cases c.bindPassword <;> rfl
  simp only [inspect, redacted, hs, hp]

end Config

end DirectoryClient
