import DirectoryClient.Cursor
import DirectoryClient.Manager.Connection
import DirectoryClient.Search.Progress

/-!
# One pass of a search

A pass sends the request on one connection and hands over the entries as they come in.

* `Search`            a search that has not begun;
* `PassOutcome`       what the end of a pass asks for;
* `Search.judge`      the outcome of every way to end;
* `Search.stream`     reads responses until they end;
* `Search.pass`       the whole pass.

Streams may be endless, so reading is bounded by a number of responses and gives nothing if the
bound is reached.
-/

namespace DirectoryClient

structure Search (N O : Type) where
  manager : Manager N
  options : SearchOptions
  /-- decides about failures and results of this search -/
  classifier : Classifier
  consumer : Consumer O
  /-- where to begin, if not at the server of the base name -/
  connection : Option Connection := none

inductive PassOutcome
  | done
  | retrySameServer
  | reconnect
  | followReferral (r : Referral)
  deriving DecidableEq, Repr

namespace Search

variable {N O : Type} (s : Search N O)

def onFailure (f : Failure) (r : ServerRecord) : Except ClientError PassOutcome :=
  match s.classifier.ofFailure f with
  | .reconnect => .ok .reconnect
  | .retrySameServer => .ok .retrySameServer
  | _ => .error (s.classifier.failureError f r.host r.port)

/-- Referrals, success and permitted cuts are decided by the options, all else by the classifier. -/
def onResult (result : LdapResult) (r : ServerRecord) : Except ClientError PassOutcome :=
  if result.code = ResultCode.referral ∧ s.options.referralStrategy ≠ .throw then
    if s.options.referralStrategy = .ignore then .ok .done
    else .ok (.followReferral ⟨result.urls⟩)
  else if result.code = ResultCode.success then .ok .done
  else if result.code = ResultCode.sizeLimitExceeded ∧ s.options.allowPartialResults then .ok .done
  else match s.classifier.ofResult result with
    | .retrySameServer => .ok .retrySameServer
    | .reconnect => .ok .reconnect
    | _ => .error (s.classifier.resultError result r.host r.port)

/-- Without a result in the end the search counts as done. -/
def judge (e : PassEnd) (r : ServerRecord) : Except ClientError PassOutcome :=
  match e with
  | .stopped => .ok .done
  | .ended none => .ok .done
  | .ended (some result) => s.onResult result r
  | .failed f => s.onFailure f r
  | .unmapped e => .error e

/-- gives an object to the handler, which says whether it wants more -/
def hand (x : O) : Searching N O Bool := do
  modify fun p => p.handing x
  let more := s.consumer.wantsMore (← get).handed
  (World.record (.handed more) : Act N Unit)
  return more

/-- At most `fuel` responses are read.  A cursor that is not read to its end is ended here. -/
def stream (c : CursorId) : Nat → Searching N O (Option StreamEnd)
  | 0 => return none
  | fuel + 1 => do
    match ← s.manager.transport.advance c with
    | .error f =>
      s.manager.transport.discard c
      return some (.cut (.failed f))
    | .ok none => return some .exhausted
    | .ok (some (.entry e)) =>
      modify Progress.counting
      match s.consumer.toObject e with
      | .error err =>
        s.manager.transport.discard c
        return some (.cut (.unmapped err))
      | .ok x =>
        if ← s.hand x then stream c fuel
        else
          let _ ← s.manager.transport.giveUp c
          return some (.cut .stopped)
    | .ok (some _) => stream c fuel

/-- the result at the end of a cursor, which is released -/
def ending (c : CursorId) : Act N (Option LdapResult) := do
  let result ← s.manager.transport.terminal c
  s.manager.transport.release c
  return result

def pass (request : SearchRequest) (session : SessionId) (fuel : Nat) :
    Searching N O (Option PassEnd) := do
  match ← s.manager.transport.start session request with
  | .error f => return some (.failed f)
  | .ok c =>
    match ← s.stream c fuel with
    | none => return none
    | some (.cut e) => return some e
    | some .exhausted => return some (.ended (← s.ending c))

end Search

end DirectoryClient
