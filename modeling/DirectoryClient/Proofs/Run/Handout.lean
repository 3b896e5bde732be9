import DirectoryClient.Proofs.Run.Growth
import DirectoryClient.Proofs.Run.Sessions

/-!
# Connections that are handed out

* `Work.wanes`            no piece of work brings a session back;
* `Manager.HandedOut`     a connection that a manager gave away: bound, and alive or new
                          (`Connecting.handedOut`);
* `Registry.Named`        a server that one of the URLs of a referral means;
* `Manager.Finding`       how the server for a connection is found (`finding_of_connection`,
                          `finding_of_referral`).
-/

namespace DirectoryClient

open Relation

/-- whether one of the URLs of a referral means the server at a position -/
def Registry.Named (schema : Schema) (r : Registry) (referral : Referral) (i : Nat) : Prop :=
  ∃ text ∈ referral.urls, ∃ url, LdapUrl.parse text = .ok url ∧ r.find? schema url = some i

namespace Manager

variable {N : Type} {m : Manager N} {known : N → SessionId → Prop} {w w' : World N}

/-! ## Sessions do not come back -/

theorem Connecting.wanes (hl : m.transport.Lawful known) {i : Nat}
    {answer : Except ClientError SessionId} (h : m.Connecting i w answer w') :
    m.transport.Wanes known w.net w'.net := by
  cases h with
  | kept s hs hc => exact .refl _
  | refused e hst hd => exact hl.connect _ _
  | bound s hst hd hb => exact wanes_loggedIn hl i s
  | unbound s e hst hd hb => exact (wanes_loggedIn hl i s).trans (hl.close s _)

theorem Work.wanes (hl : m.transport.Lawful known) (h : m.Work w w') :
    m.transport.Wanes known w.net w'.net := by
  cases h with
  | move hm =>
    cases hm with
    | draw => exact .refl _
    | choose d => exact .refl _
    | locate url => exact .refl _
    | attach i _ hi => exact (m.connectServer_spec i w).wanes hl
    | detach i _ hi =>
      rcases m.closeServer_cases i w with ⟨-, hw⟩ | ⟨s, -, hw⟩ <;> rw [hw]
      · exact .refl _
      · exact hl.close s _
    | hangUp s => exact hl.close s _
    | pause retry length => exact .refl _
  | start s request => exact hl.search s request _
  | advance c => exact hl.next c _
  | terminal c => exact hl.finish c _
  | giveUp c => exact hl.abandon c _
  | cancelNow c => exact hl.cancel c _
  | handed more => exact .refl _
  | passed e => exact .refl _

theorem wanes_of_work (hl : m.transport.Lawful known) (h : ReflTransGen m.Work w w') :
    m.transport.Wanes known w.net w'.net := by
  induction h with
  | refl => exact .refl _
  | tail _ hs ih => exact ih.trans (hs.wanes hl)

theorem SessionInv.works (hl : m.transport.Lawful known) (h : m.SessionInv known w)
    (hw : ReflTransGen m.Work w w') : m.SessionInv known w' :=
  keeps_of_follows (fun _ _ hs h => h.work hl hs) hw h

theorem SessionInv.known_of_stored (h : m.SessionInv known w) {i : Nat}
    (hi : i < w.registry.size) {s : SessionId} (hs : (w.registry.server i).session = some s) :
    known w.net s := (h.opened i s (h.bound i hi s hs).1).2

/-! ## Handing out -/

variable (m) in
/-- A connection that was given away between two worlds. -/
structure HandedOut (w w' : World N) (conn : Connection) : Prop where
  /-- its session is stored with its server -/
  inside : conn.server < w'.registry.size
  stored : (w'.registry.server conn.server).session = some conn.session
  /-- the server agreed to the bind that its record demands -/
  bound : ∃ answer, Event.bind conn.session
    (w'.registry.server conn.server).record.bindRequest answer ∈ w'.log ∧ Accepted answer
  /-- it is connected, or it was opened for its server on the way -/
  usable : m.transport.isConnected conn.session w'.net = true ∨ ∃ new settings,
    w'.log = new ++ w.log ∧
      Event.connect conn.server settings (.ok (some conn.session)) ∈ new

theorem HandedOut.known_session (h : m.SessionInv known w') {conn : Connection}
    (hc : m.HandedOut w w' conn) : known w'.net conn.session :=
  h.known_of_stored hc.inside hc.stored

/-- What was given away later was given away since an earlier world. -/
theorem HandedOut.since {v : World N} {conn : Connection} (h : m.HandedOut w w' conn)
    {new : List Event} (hlog : w.log = new ++ v.log) : m.HandedOut v w' conn where
  inside := h.inside
  stored := h.stored
  bound := h.bound
  usable := by
    rcases h.usable with hc | ⟨new', settings, hlog', hm⟩
    · exact .inl hc
    · refine .inr ⟨new' ++ new, settings, ?_, List.mem_append_left _ hm⟩
      rw [hlog', hlog, List.append_assoc]

theorem Connecting.handedOut (h : m.SessionInv known w) {i : Nat} (hi : i < w.registry.size)
    {s : SessionId} (hc : m.Connecting i w (.ok s) w') : m.HandedOut w w' ⟨i, s⟩ := by
  cases hc with
  | kept _ hs hc =>
    obtain ⟨-, answer, hb, ha⟩ := h.bound i hi s hs
    exact ⟨hi, hs, ⟨answer, hb, ha⟩, .inl hc⟩
  | bound _ hst hd hb =>
    have ha := bindError_eq_none_iff.mp hb
    have r := renewal_stored hi hst hd ha
    have hopened : Event.connect i (m.settings (w.registry.server i).record) (.ok (some s)) ∈
        [Event.bind s (w.registry.server i).record.bindRequest (m.bindAnswer i s w),
          .connect i (m.settings (w.registry.server i).record) (m.dialAnswer i w)] := by
      rw [← hd]
      exact List.mem_cons_of_mem _ List.mem_cons_self
    refine ⟨r.size ▸ hi, (r.settled.resolve_right ?_).1, ⟨_, ?_, ha⟩,
      .inr ⟨_, _, ?_, hopened⟩⟩
    · rintro ⟨-, ⟨a, hm⟩, -⟩
      cases hm
    · rw [r.same]
      exact r.bind_mem
    · exact m.log_loggedIn i s w

/-- A session that is handed out is either new or connected, so that it is not one that was known
and is lost. -/
theorem Connecting.ne_of_lost (hl : m.transport.Lawful known) {i : Nat} {s lost : SessionId}
    (hc : m.Connecting i w (.ok s) w') (hk : known w.net lost)
    (hlost : m.transport.isConnected lost w.net = false) : s ≠ lost := by
  rintro rfl
  cases hc with
  | kept _ hs hc =>
    rw [hlost] at hc
    cases hc
  | bound _ hst hd hb => exact (new_of_dialAnswer hl hd).1 hk

/-! ## Finding a server -/

variable (m) in
/-- how the server at a position is found, by a name or by a referral that was followed -/
inductive Finding (base : Dn) : Option Referral → World N → Nat → World N → Prop
  | named {w w' : World N} {i : Nat} (h : select base w = (i, w')) : Finding base none w i w'
  | referred {referral : Referral} {text : String} {url : LdapUrl} {w w' : World N} {i : Nat}
      (ht : text ∈ referral.urls) (hp : LdapUrl.parse text = .ok url)
      (h : m.selectForUrl url (World.draw w).2 = (i, w')) : Finding base (some referral) w i w'

namespace Finding

variable {base : Dn} {last : Option Referral} {i : Nat}

theorem lt_size (h : m.Finding base last w i w') : i < w'.registry.size := by
  cases h with
  | named h =>
    have hlt := select_lt_size base w
    rwa [h] at hlt
  | @referred _ _ url _ _ _ ht hp h =>
    have hlt := m.selectForUrl_lt_size url (World.draw w).2
    rwa [h] at hlt

theorem fetches (h : m.Finding base last w i w') : ReflTransGen m.Fetch w w' := by
  cases h with
  | named h =>
    have hs : m.Fetch w (select base w).2 := .choose base w
    rw [h] at hs
    exact .single hs
  | @referred _ _ url _ _ _ ht hp h =>
    have hs : m.Fetch (World.draw w).2 (m.selectForUrl url (World.draw w).2).2 := .locate url _
    rw [h] at hs
    exact .head (.draw w) (.single hs)

theorem work (h : m.Finding base last w i w') : ReflTransGen m.Work w w' :=
  work_of_fetches h.fetches

theorem exists_log (h : m.Finding base last w i w') : ∃ new, w'.log = new ++ w.log := by
  cases h with
  | named h => exact ⟨[_], congrArg (fun x => x.2.log) h.symm⟩
  | referred ht hp h => exact ⟨[_], congrArg (fun x => x.2.log) h.symm⟩

end Finding

/-- Connecting a server, as its connection. -/
theorem connectTo_apply (i : Nat) (w : World N) : m.connectTo i w =
    ((m.connectServer i w).1.map (Connection.mk i), (m.connectServer i w).2) := rfl

theorem connectServer_of_connectTo {i : Nat} {conn : Connection}
    (h : m.connectTo i w = (.ok conn, w')) :
    conn.server = i ∧ m.Connecting i w (.ok conn.session) w' := by
  have hspec := m.connectServer_spec i w
  rw [connectTo_apply] at h
  obtain ⟨ha, rfl⟩ := Prod.mk.inj h
  cases hs : (m.connectServer i w).1 with
  | error e =>
    rw [hs] at ha
    cases ha
  | ok s =>
    rw [hs] at ha hspec
    obtain rfl : Connection.mk i s = conn := Except.ok.inj ha
    exact ⟨rfl, hspec⟩

theorem finding_of_connection {base : Dn} {conn : Connection}
    (h : m.connection base w = (.ok conn, w')) :
    ∃ v, m.Finding base none w conn.server v ∧
      m.Connecting conn.server v (.ok conn.session) w' := by
  obtain ⟨hi, hc⟩ := connectServer_of_connectTo (show m.connectTo (select base w).1 (select base w).2
    = (.ok conn, w') from h)
  rw [hi]
  exact ⟨_, .named rfl, hc⟩

theorem connectionForReferral_of_some {referral : Referral} {i : Nat} {v : World N}
    (h : m.selectForReferral referral w = (.ok (some i), v)) :
    m.connectionForReferral referral w = ((m.connectTo i v).1.map some, (m.connectTo i v).2) := by
  simp only [connectionForReferral, Act.bind_apply, h]
  rfl

theorem finding_of_referral (base : Dn) {referral : Referral} {conn : Connection}
    (h : m.connectionForReferral referral w = (.ok (some conn), w')) :
    ∃ v, m.Finding base (some referral) w conn.server v ∧
      m.Connecting conn.server v (.ok conn.session) w' := by
  rcases m.selectForReferral_cases referral w with ⟨-, hs⟩ | ⟨e, hs⟩ | ⟨text, ht, url, hp, hs⟩
  · simp only [connectionForReferral, Act.bind_apply, hs] at h
    cases h
  · simp only [connectionForReferral, Act.bind_apply, hs] at h
    cases h
  · rw [connectionForReferral_of_some hs] at h
    rcases hx : m.connectTo (m.selectForUrl url (World.draw w).2).1
      (m.selectForUrl url (World.draw w).2).2 with ⟨e | conn', w₁⟩
    · rw [hx] at h
      cases h
    · rw [hx] at h
      obtain ⟨he, rfl⟩ := Prod.mk.inj h
      obtain rfl := Option.some.inj (Except.ok.inj he)
      obtain ⟨hi, hc⟩ := connectServer_of_connectTo hx
      rw [hi]
      exact ⟨_, .referred ht hp rfl, hc⟩

end Manager

end DirectoryClient
