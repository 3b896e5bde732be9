import DirectoryClient.Manager.Connection
import DirectoryClient.Proofs.Secrecy.World

/-!
# Two managers with different passwords

* `Manager.Twin`                 two managers that differ in their passwords, on networks that
                                 answer alike;
* `agree_select`, `agree_enrol`, `agree_selectForReferral`   they choose the same servers;
* `Twin.connectServer`           they connect them in the same way, with the same errors;
* `Twin.close`                   they close them in the same way;
* `Twin.inspect`                 they look the same.
-/

namespace DirectoryClient

section
variable {N N' : Type} {P : String → String → Prop} {R : N → N' → Prop}

structure Manager.Twin (P : String → String → Prop) (R : N → N' → Prop) (m : Manager N)
    (m' : Manager N') : Prop where
  config : m.config.Twin P m'.config
  schema : m.schema = m'.schema
  classifier : m.classifier = m'.classifier
  transport : m.transport.Agrees P R m'.transport

/-- An operation on the answer of another one, if that is no error. -/
theorem Act.Agree.map {α β : Type} {x : Act N (Except ClientError α)}
    {y : Act N' (Except ClientError α)} (h : Act.Agree P R Eq x y) (f : α → β) :
    Act.Agree P R Eq (do return (← x).map f) (do return (← y).map f) :=
  h.next fun _ => .pure rfl

namespace Manager

theorem agree_server (i : Nat) :
    Act.Agree P R (Server.Twin P) (server i : Act N Server) (server i : Act N' Server) :=
  .ask fun _ _ hw => hw.registry.server i

theorem agree_store (i : Nat) (s : Option SessionId) :
    Act.Agree P R Eq (store i s : Act N Unit) (store i s : Act N' Unit) :=
  fun _ _ hw => ⟨rfl, { hw with registry := hw.registry.setSession i s }⟩

/-- The same draw leads to the same server. -/
theorem agree_select (d : Dn) :
    Act.Agree P R Eq (select d : Act N Nat) (select d : Act N' Nat) := by
  refine Act.Agree.draw.next fun draw => ?_
  have hregistry : Act.Agree P R (Registry.Twin P) (registry : Act N Registry)
      (registry : Act N' Registry) := .ask fun _ _ hw => hw.registry
  refine hregistry.bind fun r r' hr => ?_
  have hroute : r.route d draw = r'.route d draw := hr.route d draw
  show Act.Agree P R Eq (do World.record (.routed d (r.route d draw)); return r.route d draw)
    (do World.record (.routed d (r'.route d draw)); return r'.route d draw)
  rw [hroute]
  exact (Act.Agree.record _).next fun _ => .pure rfl

theorem unreachable_eq {r r' : ServerRecord} (hr : r.Twin P r') : unreachable r = unreachable r' :=
  congrArg ("Unable to connect to LDAP server " ++ ·) hr.endpoint

namespace Twin

variable {m : Manager N} {m' : Manager N'} (h : Manager.Twin P R m m')
include h

theorem binary : m.binary = m'.binary := by
  rw [Manager.binary, Manager.binary, h.config.binaryAttributes]

/-! ## Finding a server -/

theorem enrol (url : LdapUrl) : Act.Agree P R Eq (m.enrol url) (m'.enrol url) := by
  intro w w' hw
  obtain ⟨hi, hr⟩ := hw.registry.enrol m'.schema url
  show (w.registry.enrol m.schema url).1 = (w'.registry.enrol m'.schema url).1 ∧ World.Twin P R
    { w with registry := (w.registry.enrol m.schema url).2 }
    { w' with registry := (w'.registry.enrol m'.schema url).2 }
  rw [h.schema]
  exact ⟨hi, { hw with registry := hr }⟩

theorem selectForUrl (url : LdapUrl) :
    Act.Agree P R Eq (m.selectForUrl url) (m'.selectForUrl url) :=
  (h.enrol url).next fun _ => (Act.Agree.record _).next fun _ => .pure rfl

theorem selectForReferral (referral : Referral) :
    Act.Agree P R Eq (m.selectForReferral referral) (m'.selectForReferral referral) := by
  rw [Manager.selectForReferral, Manager.selectForReferral]
  by_cases hempty : referral.isEmpty = true
  · rw [if_pos hempty, if_pos hempty]
    exact .pure rfl
  · rw [if_neg hempty, if_neg hempty]
    refine Act.Agree.draw.next fun draw => ?_
    cases LdapUrl.parse ((referral.urls[draw % referral.urls.length]?).getD "") with
    | error e => exact .pure rfl
    | ok url => exact (h.selectForUrl url).next fun _ => .pure rfl

/-! ## Connecting a server -/

theorem connectError {r r' : ServerRecord} (hr : r.Twin P r') (f : Failure) :
    m.connectError r f = m'.connectError r' f := by
  rw [Manager.connectError, Manager.connectError, h.classifier, hr.rest]
  rfl

/-- The name that was refused is in the error, the password is not. -/
theorem bindError {r r' : ServerRecord} (hr : r.Twin P r') (answer : Except Failure LdapResult) :
    m.bindError r answer = m'.bindError r' answer := by
  cases answer with
  | ok result => rw [Manager.bindError, Manager.bindError, hr.rest]
  | error f => rw [Manager.bindError, Manager.bindError, h.classifier, hr.rest]

theorem liveSession (i : Nat) : Act.Agree P R Eq (m.liveSession i) (m'.liveSession i) := by
  refine .ask fun w w' hw => ?_
  have hlive : (fun s => m.transport.isConnected s w.net) =
      fun s => m'.transport.isConnected s w'.net := funext fun s => h.transport.isConnected hw.net s
  rw [(hw.registry.server i).session, hlive]

theorem openSession (i : Nat) {r r' : ServerRecord} (hr : r.Twin P r') :
    Act.Agree P R Eq (m.openSession i r) (m'.openSession i r') := by
  have hsettings : m.settings r = m'.settings r' := by
    rw [Manager.settings, Manager.settings, h.binary, hr.settings]
  rw [Manager.openSession, Manager.openSession, hsettings]
  refine (h.transport.dial i _).next fun answer => ?_
  rcases answer with f | _ | s
  · exact .pure (congrArg Except.error (h.connectError hr f))
  · exact .pure (by rw [unreachable_eq hr])
  · -- the one place that the secrets go to
    refine (h.transport.login s hr.bindRequest).next fun bound => ?_
    rw [h.bindError hr]
    cases m'.bindError r' bound with
    | none => exact (agree_store i (some s)).next fun _ => .pure rfl
    | some e => exact (h.transport.hangUp s).next fun _ => .pure rfl

theorem connectServer (i : Nat) :
    Act.Agree P R Eq (m.connectServer i) (m'.connectServer i) := by
  refine (h.liveSession i).next fun session => ?_
  cases session with
  | some s => exact .pure rfl
  | none =>
    refine (agree_store i none).next fun _ => ?_
    exact (agree_server i).bind fun s s' hs => h.openSession i hs.record

theorem connectTo (i : Nat) : Act.Agree P R Eq (m.connectTo i) (m'.connectTo i) :=
  (h.connectServer i).map (Connection.mk i)

theorem connection (d : Dn) : Act.Agree P R Eq (m.connection d) (m'.connection d) :=
  (agree_select d).next fun i => h.connectTo i

theorem connectionForUrl (url : LdapUrl) :
    Act.Agree P R Eq (m.connectionForUrl url) (m'.connectionForUrl url) :=
  (h.selectForUrl url).next fun i => h.connectTo i

theorem connectionForReferral (referral : Referral) :
    Act.Agree P R Eq (m.connectionForReferral referral) (m'.connectionForReferral referral) := by
  refine (h.selectForReferral referral).next fun answer => ?_
  rcases answer with e | _ | i
  · exact .pure rfl
  · exact .pure rfl
  · exact (h.connectTo i).map some

theorem connect : Act.Agree P R Eq m.connect m'.connect := (h.connectTo 0).map fun _ => ()

theorem isConnected : Act.Agree P R Eq m.isConnected m'.isConnected := by
  refine .ask fun w w' hw => ?_
  have hlive : (fun s => m.transport.isConnected s w.net) =
      fun s => m'.transport.isConnected s w'.net := funext fun s => h.transport.isConnected hw.net s
  rw [hw.registry.first.session, hlive]

/-! ## Closing the servers -/

theorem closeServer (i : Nat) : Act.Agree P R Eq (m.closeServer i) (m'.closeServer i) := by
  refine (agree_server i).bind fun s s' hs => ?_
  rw [hs.session]
  cases s'.session with
  | none => exact .pure rfl
  | some session =>
    refine (agree_store i none).next fun _ => (h.transport.hangUp session).next fun answer => ?_
    cases answer with
    | ok u => exact .pure rfl
    | error f =>
      refine .pure ?_
      rw [h.classifier, hs.record.rest]

theorem closeServers (last : Option ClientError) (l : List Nat) :
    Act.Agree P R Eq (m.closeServers last l) (m'.closeServers last l) := by
  induction l generalizing last with
  | nil => exact .pure rfl
  | cons i l ih => exact (h.closeServer i).next fun e => ih (e.or last)

theorem close : Act.Agree P R Eq m.close m'.close := by
  have hregistry : Act.Agree P R (Registry.Twin P) (registry : Act N Registry)
      (registry : Act N' Registry) := .ask fun _ _ hw => hw.registry
  refine hregistry.bind fun r r' hr => ?_
  rw [hr.size]
  refine (h.closeServers none _).next fun e => ?_
  cases e with
  | none => exact .pure rfl
  | some e => exact .pure rfl

/-! ## Inspection -/

theorem inspect {r r' : Registry} (hr : r.Twin P r') : m.inspect r = m'.inspect r' := by
  rw [Manager.inspect, Manager.inspect, hr.first.record.inspect, h.config.redacted]

end Twin

end Manager

end

end DirectoryClient
