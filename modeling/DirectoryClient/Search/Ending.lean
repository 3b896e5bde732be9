import DirectoryClient.ClientError

/-!
# How the passes of a search end

* `PassEnd`      the five ways in which a pass ends;
* `StreamEnd`    whether the responses were read to their end.
-/

namespace DirectoryClient

inductive PassEnd
  /-- the handler wants no more -/
  | stopped
  /-- the responses ended, with a result or without -/
  | ended (result : Option LdapResult)
  /-- the search could not be started, or a response could not be read -/
  | failed (f : Failure)
  /-- an entry gives no object -/
  | unmapped (e : ClientError)
  deriving DecidableEq, Repr

inductive StreamEnd
  | exhausted
  /-- the pass ended before the responses did -/
  | cut (e : PassEnd)
  deriving DecidableEq, Repr

end DirectoryClient
