import DirectoryClient.Manager.Basic

/-!
# Connections

A server is connected and bound when it is first used; its session is kept and used again.

* `Connection`             a session and the position of its server;
* `Manager.connectServer`  the session of a server, opened and bound if need be;
* `Manager.connection`, `connectionForUrl`, `connectionForReferral`   the same for the server that
                           a name, a URL or a referral means;
* `Manager.close`          ends every session.
-/

namespace DirectoryClient

structure Connection where
  server : Nat
  session : SessionId
  deriving DecidableEq

/-- a connection shows its server alone -/
def Connection.inspect (c : Connection) (r : Registry) : Inspection :=
  .record "Connection" [("server", .string (r.server c.server).record.text)] false

namespace Manager

variable {N : Type} (m : Manager N)

def unreachable (r : ServerRecord) : String :=
  "Unable to connect to LDAP server " ++ endpoint r.host r.port

/-- what a failure to connect becomes -/
def connectError (r : ServerRecord) (f : Failure) : ClientError :=
  if m.classifier.ofFailure f = .reconnect then .connectionFailed (unreachable r) (some (.failure f))
  else m.classifier.failureError f r.host r.port

/-- what the answer to a bind becomes, if it is an error -/
def bindError (r : ServerRecord) : Except Failure LdapResult → Option ClientError
  | .ok result =>
    if result.code = ResultCode.success then none
    else some (.bindFailed r.host r.port r.bindDn result.code result.message)
  | .error f => some (m.classifier.failureError f r.host r.port)

/-- the stored session of a server, if it is connected -/
def liveSession (i : Nat) : Act N (Option SessionId) := fun w =>
  ((w.registry.server i).session.filter fun s => m.transport.isConnected s w.net, w)

/-- A new session; it is stored only if the bind succeeds, and closed otherwise. -/
def openSession (i : Nat) (r : ServerRecord) : Act N (Except ClientError SessionId) := do
  match ← m.transport.dial i (m.settings r) with
  | .error f => return .error (m.connectError r f)
  | .ok none => return .error (.connectionFailed (unreachable r ++ " due to unknown reasons") none)
  | .ok (some s) =>
    match m.bindError r (← m.transport.login s r.bindRequest) with
    | none =>
      store i (some s)
      return .ok s
    | some e =>
      let _ ← m.transport.hangUp s
      return .error e

/-- A stored session that is no longer connected is given up first. -/
def connectServer (i : Nat) : Act N (Except ClientError SessionId) := do
  match ← m.liveSession i with
  | some s => return .ok s
  | none =>
    store i none
    m.openSession i (← server i).record

/-- a connection to the server at a position -/
def connectTo (i : Nat) : Act N (Except ClientError Connection) := do
  return (← m.connectServer i).map (Connection.mk i)

def connection (d : Dn) : Act N (Except ClientError Connection) := do
  m.connectTo (← select d)

def connectionForUrl (url : LdapUrl) : Act N (Except ClientError Connection) := do
  m.connectTo (← m.selectForUrl url)

/-- none if the referral has no URL -/
def connectionForReferral (referral : Referral) :
    Act N (Except ClientError (Option Connection)) := do
  match ← m.selectForReferral referral with
  | .error e => return .error e
  | .ok none => return .ok none
  | .ok (some i) => return (← m.connectTo i).map some

def connectionToDefault : Act N (Except ClientError Connection) := m.connectTo 0

def connect : Act N (Except ClientError Unit) := do
  return (← m.connectionToDefault).map fun _ => ()

/-- ends the session of a server, if it has one; the error that this leaves -/
def closeServer (i : Nat) : Act N (Option ClientError) := do
  let s ← server i
  match s.session with
  | none => return none
  | some session =>
    store i none
    match ← m.transport.hangUp session with
    | .ok _ => return none
    | .error f => return some (m.classifier.failureError f s.record.host s.record.port)

/-- the last of the errors that closing servers leaves -/
def closeServers (last : Option ClientError) : List Nat → Act N (Option ClientError)
  | [] => return last
  | i :: rest => do
    let e ← m.closeServer i
    closeServers (e.or last) rest

/-- Every server is closed, whatever happens to the others. -/
def close : Act N (Except ClientError Unit) := do
  match ← m.closeServers none (List.range (← registry).size) with
  | none => return .ok ()
  | some e => return .error e

end Manager

end DirectoryClient
