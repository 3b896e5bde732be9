import DirectoryClient.ClientError

/-!
# What to do about failures

* `Disposition`           try again on the same connection, on a new one, at a referral, or give up;
* `Classifier`            what to do about results and failures, and which errors they become;
* `Classifier.standard`   the usual meaning of the result codes;
* `Classifier.override`   the standard classifier with other dispositions.
-/

namespace DirectoryClient

inductive Disposition
  | retrySameServer
  | reconnect
  | followReferral
  | fatal
  deriving DecidableEq, Repr

/-- the name of the variant -/
def Disposition.title : Disposition → String
  | .retrySameServer => "RetrySameServer"
  | .reconnect => "Reconnect"
  | .followReferral => "FollowReferral"
  | .fatal => "Fatal"

structure Classifier where
  ofResult : LdapResult → Disposition
  ofFailure : Failure → Disposition
  /-- the error that a result becomes, for a host and a port -/
  resultError : LdapResult → String → UInt16 → ClientError
  /-- the error that a failure becomes, for a host and a port -/
  failureError : Failure → String → UInt16 → ClientError

/-- a host and a port -/
def endpoint (host : String) (port : UInt16) : String := host ++ ":" ++ toString port.toNat

namespace Classifier

def resultDisposition (r : LdapResult) : Disposition :=
  if r.code = ResultCode.busy ∨ r.code = ResultCode.unavailable then .retrySameServer
  else if r.code = ResultCode.serverDown ∨ r.code = ResultCode.connectError then .reconnect
  else if r.code = ResultCode.referral then .followReferral
  else .fatal

def failureDisposition : Failure → Disposition
  | .io _ => .reconnect
  | .endOfStream => .reconnect
  | .timeout => .reconnect
  | .requestLost => .reconnect
  | .responseLost => .reconnect
  | .result r => resultDisposition r
  | _ => .fatal

def errorOfResult (r : LdapResult) (host : String) (port : UInt16) : ClientError :=
  if r.code = ResultCode.invalidCredentials then .authenticationFailed r.message
  else if r.code = ResultCode.insufficientAccessRights then
    .authorizationFailed ("operation on " ++ endpoint host port ++ " (" ++ r.message ++ ")")
  else if r.code = ResultCode.noSuchObject then
    .objectNotFound
      (if r.matched.isEmpty then r.message else r.message ++ ", matched '" ++ r.matched ++ "'")
  else .directory ("LDAP error from " ++ endpoint host port ++ ": " ++ r.message) r.code

def errorOfFailure (f : Failure) (host : String) (port : UInt16) : ClientError :=
  match f with
  | .result r => errorOfResult r host port
  | .timeout => .network ("timeout talking to " ++ endpoint host port) (some (.failure f))
  | f =>
    if failureDisposition f = .reconnect then
      .network ("connection to " ++ endpoint host port ++ " lost") (some (.failure f))
    else .operationFailed ("LDAP operation on " ++ endpoint host port ++ " failed")
      (some (.failure f))

def standard : Classifier :=
  ⟨resultDisposition, failureDisposition, errorOfResult, errorOfFailure⟩

/-- other dispositions for some result codes, and one for all failures; the errors stay -/
def override (codes : List (UInt32 × Disposition)) (failures : Option Disposition) : Classifier where
  ofResult r := (codes.lookup r.code).getD (resultDisposition r)
  ofFailure f := failures.getD (failureDisposition f)
  resultError := errorOfResult
  failureError := errorOfFailure

end Classifier

end DirectoryClient
