import DirectoryClient.Failure

/-!
# Errors of the client

* `ClientError`        what the caller of an operation learns, in one type;
* `Cause`              the failure behind an error, if there is one;
* `isTransient`        whether another try may help;
* `isConfiguration`    whether the configuration is to blame;
* `code`, `message`    the two renderings of an error.

`isTransient_not_isConfiguration`: no error is both.
-/

namespace DirectoryClient

inductive Cause
  | failure (f : Failure)
  | other (text : String)
  deriving DecidableEq, Repr

def Cause.message : Cause → String
  | .failure f => f.message
  | .other text => text

inductive ClientError
  | connectionFailed (message : String) (cause : Option Cause)
  | network (message : String) (cause : Option Cause)
  /-- the server refused the bind -/
  | bindFailed (host : String) (port : UInt16) (bindDn : String) (code : UInt32) (message : String)
  | authenticationFailed (message : String)
  | authorizationFailed (operation : String)
  | invalidConfiguration (message : String)
  | objectNotFound (identifier : String)
  /-- the server answered with a code other than success -/
  | directory (message : String) (code : UInt32)
  /-- a referral led to no usable connection -/
  | referralUnavailable (referral : String)
  | maxRetriesExceeded (bound : UInt32) (message : String)
  | operationFailed (message : String) (cause : Option Cause)
  deriving DecidableEq, Repr

namespace ClientError

def isTransient : ClientError → Bool
  | .connectionFailed _ _ => true
  | .network _ _ => true
  | _ => false

def isPermanent (e : ClientError) : Bool := !e.isTransient

def isConfiguration : ClientError → Bool
  | .invalidConfiguration _ => true
  | .bindFailed _ _ _ _ _ => true
  | _ => false

def code : ClientError → String
  | .connectionFailed _ _ => "CONNECTION_FAILED"
  | .network _ _ => "NETWORK_ERROR"
  | .bindFailed _ _ _ _ _ => "BIND_FAILED"
  | .authenticationFailed _ => "AUTH_FAILED"
  | .authorizationFailed _ => "AUTHORIZATION_FAILED"
  | .invalidConfiguration _ => "INVALID_CONFIG"
  | .objectNotFound _ => "OBJECT_NOT_FOUND"
  | .directory _ _ => "DIRECTORY_ERROR"
  | .referralUnavailable _ => "REFERRAL_UNAVAILABLE"
  | .maxRetriesExceeded _ _ => "MAX_RETRIES_EXCEEDED"
  | .operationFailed _ _ => "OPERATION_FAILED"

/-- the result code that the error carries -/
def resultCode? : ClientError → Option UInt32
  | .bindFailed _ _ _ code _ => some code
  | .directory _ code => some code
  | _ => none

def cause? : ClientError → Option Cause
  | .connectionFailed _ cause => cause
  | .network _ cause => cause
  | .operationFailed _ cause => cause
  | _ => none

def message : ClientError → String
  | .connectionFailed m _ => "connection failed: " ++ m
  | .network m _ => "network error: " ++ m
  | .bindFailed host port bindDn code m =>
    "unable to bind to " ++ host ++ ":" ++ toString port.toNat ++ " as " ++ bindDn ++ ": " ++ m ++
      " (" ++ toString code.toNat ++ ")"
  | .authenticationFailed m => "authentication failed: " ++ m
  | .authorizationFailed operation =>
    "authorization failed: insufficient permissions for " ++ operation
  | .invalidConfiguration m => "invalid configuration: " ++ m
  | .objectNotFound identifier => "object not found: " ++ identifier
  | .directory m _ => m
  | .referralUnavailable referral => "cannot get connection based on referral " ++ referral
  | .maxRetriesExceeded bound m =>
    "maximum retries (" ++ toString bound.toNat ++ ") exceeded: " ++ m
  | .operationFailed m _ => "operation failed: " ++ m

theorem isTransient_not_isConfiguration (e : ClientError) :
    ¬ (e.isTransient = true ∧ e.isConfiguration = true) := by
  cases e <;> simp [isTransient, isConfiguration]

end ClientError

end DirectoryClient
