import DirectoryClient.Registry.Basic
import DirectoryClient.Retry
import DirectoryClient.Search.Ending

/-!
# The world of a client

A client acts on a world: the network, the registry of its servers, and chance.  Everything that it
asks of the network is written down with the answer, and so are the servers it chooses, its pauses,
what its handlers say and how its passes end.

* `Event`          one line of that record;
* `World`          the network, the registry, the draws of chance, and the record, newest first;
* `Act`            a computation in a world, a function of it (`Act.bind_apply`);
* `World.events`   the record in the order of time.
-/

namespace DirectoryClient

/-- Servers are given by their positions in the registry. -/
inductive Event
  /-- a name is found to belong to a server -/
  | routed (name : Dn) (server : Nat)
  /-- a URL is found to mean a server -/
  | located (url : LdapUrl) (server : Nat)
  | connect (server : Nat) (settings : Settings) (answer : Except Failure (Option SessionId))
  | bind (session : SessionId) (request : BindRequest) (answer : Except Failure LdapResult)
  | search (session : SessionId) (request : SearchRequest) (answer : Except Failure CursorId)
  | close (session : SessionId) (answer : Except Failure Unit)
  | next (cursor : CursorId) (answer : Except Failure (Option Response))
  | finish (cursor : CursorId) (answer : Option LdapResult)
  | abandon (cursor : CursorId) (answer : Except Failure Unit)
  | cancel (cursor : CursorId)
  /-- a wait of so many milliseconds is asked for before a retry -/
  | pause (retry : UInt32) (length : UInt64)
  /-- an object is handed over; `more` says whether another one is wanted -/
  | handed (more : Bool)
  /-- a pass of a search ends -/
  | passed (e : PassEnd)

structure World (N : Type) where
  net : N
  registry : Registry
  /-- the draws of chance -/
  chance : Nat → Nat
  /-- how many draws have been made -/
  drawn : Nat := 0
  /-- what happened, newest first -/
  log : List Event := []

abbrev Act (N : Type) := StateM (World N)

namespace Act

variable {N α β : Type}

@[simp] theorem pure_apply (a : α) (w : World N) : (pure a : Act N α) w = (a, w) := rfl

@[simp] theorem bind_apply (x : Act N α) (f : α → Act N β) (w : World N) :
    (x >>= f) w = f (x w).1 (x w).2 := rfl

@[simp] theorem map_apply (f : α → β) (x : Act N α) (w : World N) :
    (f <$> x) w = (f (x w).1, (x w).2) := rfl

end Act

/-- how long the client is to wait at an event, in milliseconds -/
def Event.duration : Event → Nat
  | .pause _ length => length.toNat
  | _ => 0

def waited (events : List Event) : Nat := events.foldl (fun n e => n + e.duration) 0

namespace World

variable {N : Type}

def events (w : World N) : List Event := w.log.reverse

def record (e : Event) : Act N Unit := fun w => ((), { w with log := e :: w.log })

def draw : Act N Nat := fun w => (w.chance w.drawn, { w with drawn := w.drawn + 1 })

/-- a call of the network, written down by `note` -/
def call {α : Type} (act : N → α × N) (note : α → Event) : Act N α := fun w =>
  let (a, net) := act w.net
  (a, { w with net := net, log := note a :: w.log })

/-- waits before a retry, for the whole of its delay -/
def pause (p : RetryPolicy) (retry : UInt32) : Act N Unit := do
  let d ← draw
  record (.pause retry (p.delay retry (UInt64.ofNat d)))

theorem log_call {α : Type} (act : N → α × N) (note : α → Event) (w : World N) :
    (call act note w).2.log = note (call act note w).1 :: w.log := rfl

end World

namespace Transport

variable {N : Type} (t : Transport N)

/-! ## Calls that are written down -/

/-- connects to the server at a position -/
def dial (server : Nat) (settings : Settings) : Act N (Except Failure (Option SessionId)) :=
  World.call (t.connect settings) (.connect server settings)

def login (s : SessionId) (request : BindRequest) : Act N (Except Failure LdapResult) :=
  World.call (t.bind s request) (.bind s request)

def start (s : SessionId) (request : SearchRequest) : Act N (Except Failure CursorId) :=
  World.call (t.search s request) (.search s request)

def hangUp (s : SessionId) : Act N (Except Failure Unit) := World.call (t.close s) (.close s)

def advance (c : CursorId) : Act N (Except Failure (Option Response)) :=
  World.call (t.next c) (.next c)

def terminal (c : CursorId) : Act N (Option LdapResult) := World.call (t.finish c) (.finish c)

def giveUp (c : CursorId) : Act N (Except Failure Unit) := World.call (t.abandon c) (.abandon c)

def cancelNow (c : CursorId) : Act N Unit :=
  World.call (fun net => ((), t.cancel c net)) fun _ => .cancel c

/-! ## Questions that leave no trace -/

def alive (s : SessionId) : Act N Bool := fun w => (t.isConnected s w.net, w)

def ended (c : CursorId) : Act N Bool := fun w => (t.isDone c w.net, w)

end Transport

end DirectoryClient
