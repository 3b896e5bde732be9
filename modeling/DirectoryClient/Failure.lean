import DirectoryClient.Result
import DirectoryClient.Url.Reading

/-!
# Failures of the transport

`Failure` lists what may go wrong between the client and a server, `Failure.message` words it.  A
failure may carry a result that the server sent.
-/

namespace DirectoryClient

inductive Failure
  /-- input or output failed -/
  | io (text : String)
  /-- the stream of responses ended before the search did -/
  | endOfStream
  | timeout
  /-- the request could not be handed on -/
  | requestLost
  /-- the response could not be handed back -/
  | responseLost
  /-- a finished operation could not be taken off the list -/
  | scrubLost
  | badFilter
  | emptySocketPath
  | portInSocketPath
  /-- the connection could not be secured -/
  | tls (text : String)
  | unknownScheme (text : String)
  /-- the text is no URL -/
  | badUrl (text : String)
  | emptyValueSet
  | adapter (text : String)
  | notText
  | badScope (text : String)
  | criticalExtension (text : String)
  /-- the server answered with a result -/
  | result (r : LdapResult)
  deriving DecidableEq, Repr

/-- why a text is no URL -/
def urlReason (text : String) : String :=
  match Url.parse text with
  | .ok _ => ""
  | .error flaw => flaw.message

def Failure.message : Failure → String
  | .io text => "I/O error: " ++ text
  | .endOfStream => "premature end of search stream"
  | .timeout => "timeout: deadline has elapsed"
  | .requestLost => "op send error: channel closed"
  | .responseLost => "result recv error: channel closed"
  | .scrubLost => "id scrub send error: channel closed"
  | .badFilter => "filter parse error"
  | .emptySocketPath => "empty Unix domain socket path"
  | .portInSocketPath => "the port must be empty in the ldapi scheme"
  | .tls text => "native TLS error: " ++ text
  | .unknownScheme text => "unknown LDAP URL scheme: " ++ text
  | .badUrl text => "url parse error: " ++ urlReason text
  | .emptyValueSet => "empty value set for Add"
  | .adapter text => "adapter init error: " ++ text
  | .notText => "utf8 decoding error"
  | .badScope text => "invalid scope string in LDAP URL: " ++ text
  | .criticalExtension text => "unrecognized critical LDAP URL extension: " ++ text
  | .result r => "LDAP operation result: " ++ r.summary

end DirectoryClient
