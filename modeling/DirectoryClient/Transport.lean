import DirectoryClient.Request

/-!
# Transports

What the client asks of the network, as functions on an unspecified state of the network.

* `SessionId`, `CursorId`   handles of open connections and of searches under way;
* `Transport`               what connections, sessions and cursors do.

A transport that answers from a script is `Scripted.transport`.
-/

namespace DirectoryClient

structure SessionId where
  number : Nat
  deriving DecidableEq, Repr

structure CursorId where
  number : Nat
  deriving DecidableEq, Repr

/-- Every call may change the state of the network, whether it succeeds or not. -/
structure Transport (N : Type) where
  /-- opens a connection; no session means that the transport declined without a reason -/
  connect : Settings → N → Except Failure (Option SessionId) × N
  bind : SessionId → BindRequest → N → Except Failure LdapResult × N
  search : SessionId → SearchRequest → N → Except Failure CursorId × N
  isConnected : SessionId → N → Bool
  close : SessionId → N → Except Failure Unit × N
  /-- the next response to a search; none once there are no more -/
  next : CursorId → N → Except Failure (Option Response) × N
  /-- the result that ends a search, once there are no more responses -/
  finish : CursorId → N → Option LdapResult × N
  /-- whether the search has ended on the wire -/
  isDone : CursorId → N → Bool
  /-- tells the server to give up a search -/
  abandon : CursorId → N → Except Failure Unit × N
  /-- the same without waiting -/
  cancel : CursorId → N → N

end DirectoryClient
