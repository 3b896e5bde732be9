/-!
# Results of directory operations

* `LdapResult`      a result code, the server's text, the part of a name that was found, and the
                    URLs of a referral;
* `ResultCode`      the codes that the client knows by name;
* `codeName`        the name of a code;
* `LdapResult.message`, `LdapResult.summary`   two renderings of a result.
-/

namespace DirectoryClient

structure LdapResult where
  code : UInt32
  text : String := ""
  matched : String := ""
  urls : List String := []
  deriving DecidableEq, Repr

namespace ResultCode

def success : UInt32 := 0
def sizeLimitExceeded : UInt32 := 4
def referral : UInt32 := 10
def noSuchObject : UInt32 := 32
def invalidCredentials : UInt32 := 49
def insufficientAccessRights : UInt32 := 50
def busy : UInt32 := 51
def unavailable : UInt32 := 52
def serverDown : UInt32 := 81
def connectError : UInt32 := 91

/-- the names of the codes that matter to the client -/
def names : List (UInt32 × String) := [
  (0, "success"), (1, "operationsError"), (2, "protocolError"), (3, "timeLimitExceeded"),
  (4, "sizeLimitExceeded"), (10, "referral"), (11, "adminLimitExceeded"),
  (12, "unavailableCriticalExtension"), (16, "noSuchAttribute"), (32, "noSuchObject"),
  (34, "invalidDNSyntax"), (49, "invalidCredentials"), (50, "insufficientAccessRights"),
  (51, "busy"), (52, "unavailable"), (53, "unwillingToPerform"), (80, "other"),
  (81, "serverDown"), (85, "timeout"), (91, "connectError")]

/-- the names of all codes that a server may send -/
def protocolNames : List (UInt32 × String) := [
  (0, "success"), (1, "operationsError"), (2, "protocolError"), (3, "timeLimitExceeded"),
  (4, "sizeLimitExceeded"), (5, "compareFalse"), (6, "compareTrue"),
  (7, "authMethodNotSupported"), (8, "strongerAuthRequired"), (10, "referral"),
  (11, "adminLimitExceeded"), (12, "unavailableCriticalExtension"),
  (13, "confidentialityRequired"), (14, "saslBindInProgress"), (16, "noSuchAttribute"),
  (17, "undefinedAttributeType"), (18, "inappropriateMatching"), (19, "constraintViolation"),
  (20, "attributeOrValueExists"), (21, "invalidAttributeSyntax"), (32, "noSuchObject"),
  (33, "aliasProblem"), (34, "invalidDNSyntax"), (36, "aliasDereferencingProblem"),
  (48, "inappropriateAuthentication"), (49, "invalidCredentials"),
  (50, "insufficientAccessRights"), (51, "busy"), (52, "unavailable"),
  (53, "unwillingToPerform"), (54, "loopDetect"), (64, "namingViolation"),
  (65, "objectClassViolation"), (66, "notAllowedOnNonLeaf"), (67, "notAllowedOnRDN"),
  (68, "entryAlreadyExists"), (69, "objectClassModsProhibited"), (71, "affectsMultipleDSAs"),
  (80, "other"), (88, "abandoned"), (122, "assertionFailed")]

end ResultCode

/-- the name of a code, `unknown` if it has none -/
def codeName (code : UInt32) : String := (ResultCode.names.lookup code).getD "unknown"

namespace LdapResult

/-- the name, the server's text if there is one, and the code -/
def message (r : LdapResult) : String :=
  codeName r.code ++ (if r.text.isEmpty then "" else ": " ++ r.text) ++
    " (" ++ toString r.code.toNat ++ ")"

/-- the parts of a result side by side -/
def summary (r : LdapResult) : String :=
  "rc=" ++ toString r.code.toNat ++ " (" ++
    (ResultCode.protocolNames.lookup r.code).getD "unknown" ++ "), dn: \"" ++ r.matched ++
    "\", text: \"" ++ r.text ++ "\""

end LdapResult

end DirectoryClient
