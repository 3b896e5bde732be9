import DirectoryClient.LdapUrl
import DirectoryClient.Result
import DirectoryClient.Search.Options
import DirectoryClient.World

/-!
# Progress of a search

* `Consumer`         what becomes of entries: objects, and a handler that is given these objects
                     and says whether it wants more;
* `Progress`         how far a search has come;
* `Progress.noting`  what the end of a pass adds;
* `Searching`        a computation in a world that makes progress.
-/

namespace DirectoryClient

structure Consumer (O : Type) where
  /-- An entry alone decides about its object: nothing is kept in mind from one entry to the next, so
  that an entry that comes in again gives the same object, or none for the same reason. -/
  toObject : Entry → Except ClientError O
  /-- what the handler says after it was given these objects, the last one last -/
  wantsMore : List O → Bool

structure Progress (O : Type) where
  /-- false if a size limit cut the search off and that was permitted -/
  complete : Bool := true
  /-- the entries that came in, again and again if they were sent more than once -/
  entriesFound : UInt64 := 0
  /-- the passes begun -/
  attempts : UInt32 := 0
  lastReferral : Option Referral := none
  /-- the objects that the handler was given, in this search and before -/
  handed : List O := []

namespace Progress

variable {O : Type}

/-- the start of a search; the handler stays what it is -/
def restarted (p : Progress O) : Progress O := { handed := p.handed }

def counting (p : Progress O) : Progress O := { p with entriesFound := p.entriesFound + 1 }

def handing (p : Progress O) (x : O) : Progress O := { p with handed := p.handed ++ [x] }

def beginning (p : Progress O) : Progress O := { p with attempts := p.attempts + 1 }

/-- Referrals are remembered unless they are errors; a permitted cut leaves the search incomplete. -/
def notingResult (o : SearchOptions) (r : LdapResult) (p : Progress O) : Progress O :=
  if r.code = ResultCode.referral ∧ o.referralStrategy ≠ .throw then
    { p with lastReferral := some ⟨r.urls⟩ }
  else if r.code = ResultCode.sizeLimitExceeded ∧ o.allowPartialResults then
    { p with complete := false }
  else p

/-- Only a result at the end of the responses adds anything. -/
def noting (o : SearchOptions) (e : PassEnd) (p : Progress O) : Progress O :=
  match e with
  | .ended (some r) => p.notingResult o r
  | _ => p

end Progress

abbrev Searching (N O : Type) := StateT (Progress O) (Act N)

end DirectoryClient
