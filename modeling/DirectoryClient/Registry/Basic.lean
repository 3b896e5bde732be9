import DirectoryClient.Server
import DirectoryClient.Transport

/-!
# The registry of servers

The servers that a client knows: the default one, then the configured ones, then those that
referrals led to.  A server holds at most one session.  The position of a server never changes.

* `Server`, `Registry`      the types;
* `Registry.ofConfig`       the servers of a configuration that passes validation;
* `Registry.setSession`     the one thing about a server that changes;
* `Registry.push`           one more server;
* `Registry.dump`           a line for every server.
-/

namespace DirectoryClient

structure Server where
  record : ServerRecord
  session : Option SessionId := none
  deriving DecidableEq

structure Registry where
  /-- the default server -/
  first : Server
  rest : List Server
  deriving DecidableEq

namespace Registry

def servers (r : Registry) : List Server := r.first :: r.rest

def records (r : Registry) : List ServerRecord := r.servers.map (·.record)

def size (r : Registry) : Nat := r.servers.length

/-- the server at a position; the default one if there is none -/
def server (r : Registry) (i : Nat) : Server := (r.servers[i]?).getD r.first

/-- every server of a configuration, without sessions -/
def ofConfig (schema : Schema) (c : Config) : Except ClientError Registry := do
  c.validate
  let first ← (ServerRecord.ofConfig schema c).mapError ConfigFlaw.error
  let rest ← (c.servers.mapM (ServerRecord.ofServer schema c)).mapError ConfigFlaw.error
  return ⟨{ record := first }, rest.map ({ record := · })⟩

def modify (r : Registry) (i : Nat) (f : Server → Server) : Registry :=
  match i with
  | 0 => { r with first := f r.first }
  | i + 1 => { r with rest := r.rest.modify i f }

def setSession (r : Registry) (i : Nat) (s : Option SessionId) : Registry :=
  r.modify i fun x => { x with session := s }

def push (r : Registry) (record : ServerRecord) : Registry :=
  { r with rest := r.rest ++ [{ record := record }] }

/-- the line about the server at a position -/
def line (i : Nat) (s : Server) : String :=
  toString i ++ ": " ++ s.record.text ++ (if i = 0 then " DEFAULT" else "")

def dump (r : Registry) : String :=
  "\n".intercalate (r.servers.zipIdx.map fun (s, i) => line i s)

theorem servers_modify (r : Registry) (i : Nat) (f : Server → Server) :
    (r.modify i f).servers = r.servers.modify i f := by
  cases i <;> rfl

theorem servers_push (r : Registry) (record : ServerRecord) :
    (r.push record).servers = r.servers ++ [{ record := record }] := rfl

theorem records_setSession (r : Registry) (i : Nat) (s : Option SessionId) :
    (r.setSession i s).records = r.records := by
  rw [records, setSession, servers_modify, records]
  refine List.ext_getElem? fun j => ?_
  by_cases h : i = j <;> simp [h]
  cases r.servers[j]? <;> rfl

theorem size_setSession (r : Registry) (i : Nat) (s : Option SessionId) :
    (r.setSession i s).size = r.size := by
  rw [size, setSession, servers_modify, List.length_modify, size]

end Registry

end DirectoryClient
