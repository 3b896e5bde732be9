import DirectoryClient.Search.Pass

/-!
# A search from beginning to end

Passes follow one another until one of them ends the search.

* `Turn`             what follows a pass: the end, or another pass on some connection;
* `Search.turn`      one pass and the steps between it and the next;
* `Search.passes`    the passes from a connection on;
* `Search.run`       the whole search.

A search may go on for ever, so a bound limits the passes and the responses to each; nothing comes
out if the bound is reached.
-/

namespace DirectoryClient

inductive Turn
  | finished (answer : Except ClientError Unit)
  /-- `failures` passes have failed so far -/
  | again (failures : UInt32) (conn : Connection)

namespace Search

variable {N O : Type} (s : Search N O)

/-- a connection at a referral, which must name a server -/
def connectReferral (referral : Referral) : Act N (Except ClientError Connection) := do
  match ← s.manager.connectionForReferral referral with
  | .error e => return .error e
  | .ok none => return .error (.referralUnavailable referral.text)
  | .ok (some conn) => return .ok conn

/-- a connection at the last referral, or for the base name -/
def resolve (base : Dn) (last : Option Referral) : Act N (Except ClientError Connection) :=
  match last with
  | some referral => s.connectReferral referral
  | none => s.manager.connection base

/-- another pass on a connection, if there is one -/
def onwards (failures : UInt32) : Except ClientError Connection → Turn
  | .ok conn => .again failures conn
  | .error e => .finished (.error e)

def exhaustion (base : Dn) : ClientError :=
  .maxRetriesExceeded (s.options.retry.maxAttempts.getD 0)
    ("search of " ++ base.text ++ " did not complete")

def wait (failures : UInt32) : Act N Unit := World.pause s.options.retry failures

/-- what the end of a pass on a connection asks for -/
def outcome (conn : Connection) (e : PassEnd) : Searching N O (Except ClientError PassOutcome) := do
  modify (Progress.noting s.options e)
  (World.record (.passed e) : Act N Unit)
  return s.judge e (← (Manager.server conn.server : Act N Server)).record

/-- Failures are followed by a pause, referrals are not. -/
def after (base : Dn) (failures : UInt32) (conn : Connection) :
    Except ClientError PassOutcome → Searching N O Turn
  | .error e => return .finished (.error e)
  | .ok .done => return .finished (.ok ())
  | .ok .retrySameServer => do
    s.wait failures
    return .again (failures + 1) conn
  | .ok .reconnect => do
    let _ ← s.manager.transport.hangUp conn.session
    s.wait failures
    return onwards (failures + 1) (← s.resolve base (← get).lastReferral)
  | .ok (.followReferral referral) => do
    return onwards failures (← s.connectReferral referral)

def turn (base : Dn) (request : SearchRequest) (fuel : Nat) (failures : UInt32)
    (conn : Connection) : Searching N O (Option Turn) := do
  if s.options.retry.allowsAttempt ((← get).attempts + 1) then
    modify Progress.beginning
    match ← s.pass request conn.session fuel with
    | none => return none
    | some e => return some (← s.after base failures conn (← s.outcome conn e))
  else return some (.finished (.error (s.exhaustion base)))

def passes (base : Dn) (request : SearchRequest) :
    Nat → UInt32 → Connection → Searching N O (Option (Except ClientError Unit))
  | 0, _, _ => return none
  | fuel + 1, failures, conn => do
    match ← s.turn base request fuel failures conn with
    | none => return none
    | some (.finished answer) => return some answer
    | some (.again failures conn) => passes base request fuel failures conn

/-- the connection of the first pass -/
def firstConnection (base : Dn) : Act N (Except ClientError Connection) :=
  match s.connection with
  | some conn => return .ok conn
  | none => s.resolve base none

/-- The objects handed over before are kept, all other progress starts anew. -/
def run (base : Dn) (filter : String) (scope : Scope) (attributes : List String) (fuel : Nat) :
    Searching N O (Option (Except ClientError Unit)) := do
  modify Progress.restarted
  match ← s.firstConnection base with
  | .error e => return some (.error e)
  | .ok conn =>
    s.passes base (s.options.request base filter scope attributes) fuel 0 conn

end Search

end DirectoryClient
