import DirectoryClient.Scripted.Host
import DirectoryClient.Classifier
import DirectoryClient.Transport

/-!
# A scripted network

A network in which every server answers as it was told, for rehearsing what a client does.  Sessions
and cursors are numbered from one in the order in which they are opened.

* `Network`      servers, sessions and cursors;
* `transport`    the calls of the client;
* `drop`         a session that ends without being closed.

`isConnected_close` and `isDone_abandon` say that closing and giving up work even if they fail.
-/

namespace DirectoryClient.Scripted

structure Session where
  /-- the text of host and port -/
  key : String
  binary : BinaryAttributes
  connected : Bool := true
  deriving DecidableEq

structure Cursor where
  session : SessionId
  steps : List Step
  terminal : Option LdapResult
  /-- whether there were no more responses when one was asked for -/
  exhausted : Bool := false
  /-- whether the search has ended -/
  done : Bool := false
  deriving DecidableEq

structure Network where
  hosts : Hosts := []
  sessions : List Session := []
  cursors : List Cursor := []
  deriving DecidableEq

namespace Network

/-! ## Handles -/

def session? (n : Network) (s : SessionId) : Option Session :=
  if s.number = 0 then none else n.sessions[s.number - 1]?

def cursor? (n : Network) (c : CursorId) : Option Cursor :=
  if c.number = 0 then none else n.cursors[c.number - 1]?

def setSession (n : Network) (s : SessionId) (x : Session) : Network :=
  { n with sessions := n.sessions.set (s.number - 1) x }

def setCursor (n : Network) (c : CursorId) (x : Cursor) : Network :=
  { n with cursors := n.cursors.set (c.number - 1) x }

def host (n : Network) (key : String) : Host := n.hosts.get key

def setHost (n : Network) (key : String) (h : Host) : Network :=
  { n with hosts := n.hosts.put key h }

/-- the server of a session -/
def keyOf (n : Network) (s : SessionId) : String := ((n.session? s).map (·.key)).getD ""

def isConnected (s : SessionId) (n : Network) : Bool := (n.session? s).any (·.connected)

def isDone (c : CursorId) (n : Network) : Bool := (n.cursor? c).any (·.done)

/-- a session that is no longer connected -/
def drop (s : SessionId) (n : Network) : Network :=
  match n.session? s with
  | some x => n.setSession s { x with connected := false }
  | none => n

/-- a search that has ended -/
def markDone (c : CursorId) (n : Network) : Network :=
  match n.cursor? c with
  | some x => n.setCursor c { x with done := true }
  | none => n

def refused : Reception := .refuse (.io "connection refused")

/-- what a failure on a session leaves behind -/
def suffer (d : Damage) (s : SessionId) (n : Network) : Network :=
  match d with
  | .none => n
  | .sessionLost => n.drop s
  | .serverLost =>
    let n := n.drop s
    let key := n.keyOf s
    n.setHost key { n.host key with connect := .always refused }

/-! ## Calls -/

def connect (settings : Settings) (n : Network) : Except Failure (Option SessionId) × Network :=
  let key := endpoint settings.host settings.port
  let h := n.host key
  let (reception, connect) := h.connect.take .welcome
  let n := n.setHost key { h with connect }
  match reception with
  | .decline => (.ok none, n)
  | .refuse f => (.error f, n)
  | .welcome =>
    (.ok (some ⟨n.sessions.length + 1⟩),
      { n with sessions := n.sessions ++ [⟨key, settings.binary, true⟩] })

def bind (s : SessionId) (_ : BindRequest) (n : Network) : Except Failure LdapResult × Network :=
  let key := n.keyOf s
  let h := n.host key
  let (answer, bind) := h.bind.take (.result { code := ResultCode.success })
  let n := n.setHost key { h with bind }
  match answer with
  | .result r => (.ok r, n)
  | .failure f => (.error f, n)

/-- A session that is not connected leaves the scripts alone. -/
def search (s : SessionId) (_ : SearchRequest) (n : Network) : Except Failure CursorId × Network :=
  if n.isConnected s then
    let key := n.keyOf s
    let h := n.host key
    let n := n.setHost key { h with scripts := h.scripts.tail }
    match h.scripts.headD .usual with
    | .refusal f damage => (.error f, n.suffer damage s)
    | .stream steps terminal =>
      (.ok ⟨n.cursors.length + 1⟩,
        { n with cursors := n.cursors ++ [{ session := s, steps, terminal }] })
  else (.error (.io "session is closed"), n)

/-- an answer that is a failure or nothing -/
def outcome (failure : Option Failure) : Except Failure Unit :=
  match failure with
  | some f => .error f
  | none => .ok ()

def close (s : SessionId) (n : Network) : Except Failure Unit × Network :=
  let n := n.drop s
  let key := n.keyOf s
  let h := n.host key
  let (failure, close) := h.close.take none
  (outcome failure, n.setHost key { h with close })

/-- the attributes that a session takes for binary -/
def binaryOf (n : Network) (s : SessionId) : BinaryAttributes :=
  ((n.session? s).map (·.binary)).getD ⟨[]⟩

/-- a response as the session hands it on -/
def received (b : BinaryAttributes) : Response → Response
  | .entry e => .entry (b.classify e)
  | r => r

def next (c : CursorId) (n : Network) : Except Failure (Option Response) × Network :=
  match n.cursor? c with
  | none => (.ok none, n)
  | some x =>
    match x.steps with
    | [] => (.ok none, n.setCursor c { x with exhausted := true })
    | .response r :: steps =>
      (.ok (some (received (n.binaryOf x.session) r)), n.setCursor c { x with steps })
    | .failure f stillOpen damage :: steps =>
      (.error f,
        (n.setCursor c { x with steps, done := x.done || !stillOpen }).suffer damage x.session)

/-- The result is handed out once; without one the search stays open. -/
def finish (c : CursorId) (n : Network) : Option LdapResult × Network :=
  match n.cursor? c with
  | none => (none, n)
  | some x =>
    if x.exhausted && !x.done then
      (x.terminal, n.setCursor c { x with terminal := none, done := x.terminal.isSome })
    else (none, n)

def abandon (c : CursorId) (n : Network) : Except Failure Unit × Network :=
  let key := ((n.cursor? c).map fun x => n.keyOf x.session).getD ""
  let n := n.markDone c
  let h := n.host key
  let (failure, abandon) := h.abandon.take none
  (outcome failure, n.setHost key { h with abandon })

end Network

def transport : Transport Network where
  connect := Network.connect
  bind := Network.bind
  search := Network.search
  isConnected := Network.isConnected
  close := Network.close
  next := Network.next
  finish := Network.finish
  isDone := Network.isDone
  abandon := Network.abandon
  cancel := Network.markDone

namespace Network

theorem isConnected_drop (s : SessionId) (n : Network) : (n.drop s).isConnected s = false := by
  cases h : n.session? s with
  | none => simp [drop, h, isConnected]
  | some x =>
    unfold session? at h
    split at h
    · simp at h
    · rename_i h0
      have hlt : s.number - 1 < n.sessions.length := (List.getElem?_eq_some_iff.mp h).1
      simp [drop, isConnected, setSession, session?, h0, hlt]

theorem isConnected_setHost (s : SessionId) (n : Network) (key : String) (h : Host) :
    (n.setHost key h).isConnected s = n.isConnected s := rfl

theorem isConnected_close (s : SessionId) (n : Network) :
    (close s n).2.isConnected s = false := by
  simp only [close, isConnected_setHost, isConnected_drop]

theorem isDone_markDone (c : CursorId) (n : Network) (h : (n.cursor? c).isSome) :
    (n.markDone c).isDone c = true := by
  obtain ⟨x, hx⟩ := Option.isSome_iff_exists.mp h
  unfold cursor? at hx
  split at hx
  · simp at hx
  · rename_i h0
    have hlt : c.number - 1 < n.cursors.length := (List.getElem?_eq_some_iff.mp hx).1
    simp [markDone, isDone, setCursor, cursor?, h0, hlt]

theorem isDone_abandon (c : CursorId) (n : Network) (h : (n.cursor? c).isSome) :
    (abandon c n).2.isDone c = true := isDone_markDone c n h

end Network

end DirectoryClient.Scripted
