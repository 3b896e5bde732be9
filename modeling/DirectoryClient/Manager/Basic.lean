import DirectoryClient.Registry.Routing
import DirectoryClient.World

/-!
# Connection managers

* `Manager`          the parts of a client that never change;
* `Manager.select`, `selectForUrl`, `selectForReferral`   which server to use, by its position in
                     the registry;
* `Manager.inspect`  the inspection text, without secrets.

The sessions are the subject of the module about connections.
-/

namespace DirectoryClient

structure Manager (N : Type) where
  config : Config
  schema : Schema
  /-- decides about failures to connect, to bind and to close -/
  classifier : Classifier
  transport : Transport N

namespace Manager

variable {N : Type} (m : Manager N)

/-- the attributes that every connection takes for binary -/
def binary : BinaryAttributes := .of m.config.binaryAttributes

def settings (r : ServerRecord) : Settings := r.settings m.binary

def registry : Act N Registry := fun w => (w.registry, w)

def server (i : Nat) : Act N Server := fun w => (w.registry.server i, w)

/-- stores a session, or none, with the server at a position -/
def store (i : Nat) (s : Option SessionId) : Act N Unit := fun w =>
  ((), { w with registry := w.registry.setSession i s })

def select (d : Dn) : Act N Nat := do
  let draw ← World.draw
  let i := (← registry).route d draw
  World.record (.routed d i)
  return i

/-- the server of a URL, which joins the registry if it is not there -/
def enrol (url : LdapUrl) : Act N Nat := fun w =>
  let (i, r) := w.registry.enrol m.schema url
  (i, { w with registry := r })

def selectForUrl (url : LdapUrl) : Act N Nat := do
  let i ← m.enrol url
  World.record (.located url i)
  return i

/-- the server of a URL that is drawn; none if the referral has no URL -/
def selectForReferral (referral : Referral) : Act N (Except ClientError (Option Nat)) := do
  if referral.isEmpty then return .ok none
  let draw ← World.draw
  match LdapUrl.parse ((referral.urls[draw % referral.urls.length]?).getD "") with
  | .error e => return .error (.referralUnavailable e.message)
  | .ok url => return .ok (some (← m.selectForUrl url))

/-- whether the default server has a session that is connected -/
def isConnected : Act N Bool := fun w =>
  (w.registry.first.session.any fun s => m.transport.isConnected s w.net, w)

/-- whether the default server can be used -/
def isAlive : Act N Bool := m.isConnected

def inspect (r : Registry) : Inspection :=
  .record "ConnectionManager"
    [("default_server", r.first.record.inspect), ("config", m.config.redacted.inspect)] false

theorem select_apply (d : Dn) (w : World N) :
    (select d w).1 = w.registry.route d (w.chance w.drawn) := rfl

theorem selectForUrl_apply (url : LdapUrl) (w : World N) :
    (m.selectForUrl url w).1 = (w.registry.enrol m.schema url).1 := rfl

theorem registry_selectForUrl (url : LdapUrl) (w : World N) :
    (m.selectForUrl url w).2.registry = (w.registry.enrol m.schema url).2 := rfl

end Manager

end DirectoryClient
