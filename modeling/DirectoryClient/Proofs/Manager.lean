import DirectoryClient.Manager.Connection
import DirectoryClient.Proofs.Registry
import DirectoryClient.Proofs.Routing

/-!
# What the parts of a manager do

One statement for each part says everything that it may do to the world.

* `selectForReferral_cases`                 one of the URLs of a referral is drawn;
* `Manager.Connecting`, `connectServer_spec`  the four ways to connect a server;
* `closeServer_of_none`, `closeServer_of_some`   the two ways to close it (`closeServer_cases`);
* `..._lt_size`                             positions stay within the registry.
-/

namespace DirectoryClient

namespace Manager

variable {N : Type} (m : Manager N)

/-! ## Choosing a server -/

theorem select_lt_size (d : Dn) (w : World N) :
    (select d w).1 < (select d w).2.registry.size := Registry.route_lt_size _

theorem selectForUrl_lt_size (url : LdapUrl) (w : World N) :
    (m.selectForUrl url w).1 < (m.selectForUrl url w).2.registry.size :=
  Registry.enrol_lt_size w.registry m.schema url

section
variable {m} {url : LdapUrl} {w : World N} (hn : w.registry.find? m.schema url = none)
include hn

theorem registry_selectForUrl_of_new : (m.selectForUrl url w).2.registry =
    w.registry.push (.ofReferral m.schema w.registry.first.record url) := by
  rw [registry_selectForUrl, Registry.enrol, hn]

theorem selectForUrl_of_new : (m.selectForUrl url w).1 = w.registry.size := by
  rw [selectForUrl_apply, Registry.enrol, hn]

theorem server_selectForUrl_of_new : (m.selectForUrl url w).2.registry.server w.registry.size =
    { record := .ofReferral m.schema w.registry.first.record url } := by
  rw [registry_selectForUrl_of_new hn]
  exact Registry.server_push_size _ _

end

theorem selectForReferral_of_nonempty {r : Referral} (h : r.isEmpty = false) (w : World N) :
    m.selectForReferral r w =
      match LdapUrl.parse ((r.urls[(World.draw w).1 % r.urls.length]?).getD "") with
      | .error e => (.error (.referralUnavailable e.message), (World.draw w).2)
      | .ok url => (.ok (some (m.selectForUrl url (World.draw w).2).1),
          (m.selectForUrl url (World.draw w).2).2) := by
  simp only [selectForReferral, h, Bool.false_eq_true, if_false, Act.bind_apply]
  generalize LdapUrl.parse _ = x
  cases x <;> rfl

/-- A referral without URLs means no server; otherwise one of its URLs is drawn and read. -/
theorem selectForReferral_cases (r : Referral) (w : World N) :
    (r.isEmpty = true ∧ m.selectForReferral r w = (.ok none, w)) ∨
    (∃ e : LdapUrlError, m.selectForReferral r w =
      (.error (.referralUnavailable e.message), (World.draw w).2)) ∨
    ∃ text ∈ r.urls, ∃ url, LdapUrl.parse text = .ok url ∧ m.selectForReferral r w =
      (.ok (some (m.selectForUrl url (World.draw w).2).1),
        (m.selectForUrl url (World.draw w).2).2) := by
  cases he : r.isEmpty with
  | true => exact .inl ⟨rfl, by simp [selectForReferral, he]⟩
  | false =>
    have hne : r.urls ≠ [] := by simpa [Referral.isEmpty] using he
    have hk : (World.draw w).1 % r.urls.length < r.urls.length :=
      Nat.mod_lt _ (List.length_pos_iff.mpr hne)
    have hs := m.selectForReferral_of_nonempty he w
    rw [List.getElem?_eq_getElem hk, Option.getD_some] at hs
    cases hp : LdapUrl.parse r.urls[(World.draw w).1 % r.urls.length] with
    | error e => exact .inr (.inl ⟨e, by rw [hs, hp]⟩)
    | ok url => exact .inr (.inr ⟨_, List.getElem_mem hk, url, hp, by rw [hs, hp]⟩)

theorem selectForReferral_lt_size {r : Referral} {w : World N} {i : Nat}
    (h : (m.selectForReferral r w).1 = .ok (some i)) :
    i < (m.selectForReferral r w).2.registry.size := by
  rcases m.selectForReferral_cases r w with ⟨-, hs⟩ | ⟨e, hs⟩ | ⟨text, -, url, -, hs⟩ <;>
    rw [hs] at h ⊢
  · cases h
  · cases h
  · obtain rfl : _ = i := Option.some.inj (Except.ok.inj h)
    exact m.selectForUrl_lt_size url _

/-! ## Connecting and closing -/

/-- the world in which a server has no session any more -/
def cleared (i : Nat) (w : World N) : World N := (store i none w).2

/-- the same after the transport was asked for a connection -/
def dialled (i : Nat) (w : World N) : World N :=
  (m.transport.dial i (m.settings (w.registry.server i).record) (cleared i w)).2

/-- the same after a bind on the new session -/
def loggedIn (i : Nat) (s : SessionId) (w : World N) : World N :=
  (m.transport.login s (w.registry.server i).record.bindRequest (m.dialled i w)).2

/-- the answer of the transport when it is asked for a connection -/
def dialAnswer (i : Nat) (w : World N) : Except Failure (Option SessionId) :=
  (m.transport.dial i (m.settings (w.registry.server i).record) (cleared i w)).1

def bindAnswer (i : Nat) (s : SessionId) (w : World N) : Except Failure LdapResult :=
  (m.transport.login s (w.registry.server i).record.bindRequest (m.dialled i w)).1

/-- no session is stored with the server, or one that is not connected -/
def Stale (i : Nat) (w : World N) : Prop :=
  ∀ s, (w.registry.server i).session = some s → m.transport.isConnected s w.net = false

/-- The ways to connect the server at a position, with the answer and the world that they lead to. -/
inductive Connecting (i : Nat) (w : World N) : Except ClientError SessionId → World N → Prop
  /-- the stored session is connected -/
  | kept (s : SessionId) (hs : (w.registry.server i).session = some s)
      (hc : m.transport.isConnected s w.net = true) : Connecting i w (.ok s) w
  /-- the transport opens no connection -/
  | refused (e : ClientError) (hst : m.Stale i w) (hd : ∀ s, m.dialAnswer i w ≠ .ok (some s)) :
      Connecting i w (.error e) (m.dialled i w)
  /-- a new session is bound and stored -/
  | bound (s : SessionId) (hst : m.Stale i w) (hd : m.dialAnswer i w = .ok (some s))
      (hb : m.bindError (w.registry.server i).record (m.bindAnswer i s w) = none) :
      Connecting i w (.ok s) (store i (some s) (m.loggedIn i s w)).2
  /-- the bind fails, and the new session is closed -/
  | unbound (s : SessionId) (e : ClientError) (hst : m.Stale i w)
      (hd : m.dialAnswer i w = .ok (some s))
      (hb : m.bindError (w.registry.server i).record (m.bindAnswer i s w) = some e) :
      Connecting i w (.error e) (m.transport.hangUp s (m.loggedIn i s w)).2

theorem log_dialled (i : Nat) (w : World N) : (m.dialled i w).log =
    .connect i (m.settings (w.registry.server i).record) (m.dialAnswer i w) :: w.log := rfl

theorem log_loggedIn (i : Nat) (s : SessionId) (w : World N) : (m.loggedIn i s w).log =
    .bind s (w.registry.server i).record.bindRequest (m.bindAnswer i s w) ::
      .connect i (m.settings (w.registry.server i).record) (m.dialAnswer i w) :: w.log := rfl

theorem record_cleared (i j : Nat) (w : World N) :
    ((cleared i w).registry.server j).record = (w.registry.server j).record :=
  w.registry.record_setSession i j none

theorem connectServer_of_live {i : Nat} {w : World N} {s : SessionId}
    (h : (m.liveSession i w).1 = some s) : m.connectServer i w = (.ok s, w) := by
  simp only [connectServer, Act.bind_apply, h]
  rfl

theorem connectServer_of_not_live {i : Nat} {w : World N} (h : (m.liveSession i w).1 = none) :
    m.connectServer i w = m.openSession i (w.registry.server i).record (cleared i w) := by
  simp only [connectServer, Act.bind_apply, h]
  rw [← record_cleared i i w]
  rfl

theorem stale_of_not_live {i : Nat} {w : World N} (h : (m.liveSession i w).1 = none) :
    m.Stale i w := by
  intro s hs
  have hl : (w.registry.server i).session.filter (m.transport.isConnected · w.net) = none := h
  simpa [hs] using hl

theorem openSession_spec {i : Nat} {w : World N} (hst : m.Stale i w) :
    m.Connecting i w (m.openSession i (w.registry.server i).record (cleared i w)).1
      (m.openSession i (w.registry.server i).record (cleared i w)).2 := by
  have hd : m.dialAnswer i w =
    (m.transport.dial i (m.settings (w.registry.server i).record) (cleared i w)).1 := rfl
  cases ha : m.dialAnswer i w with
  | error f =>
    rw [ha] at hd
    simp only [openSession, Act.bind_apply, ← hd]
    exact .refused _ hst (by simp [ha])
  | ok o =>
    rw [ha] at hd
    cases o with
    | none =>
      simp only [openSession, Act.bind_apply, ← hd]
      exact .refused _ hst (by simp [ha])
    | some s =>
      have hb : m.bindAnswer i s w =
        (m.transport.login s (w.registry.server i).record.bindRequest (m.dialled i w)).1 := rfl
      simp only [openSession, Act.bind_apply, ← hd]
      cases he : m.bindError (w.registry.server i).record (m.bindAnswer i s w) with
      | none =>
        have hb' := hb ▸ he
        simp only [dialled] at hb'
        simp only [hb']
        exact .bound s hst ha he
      | some e =>
        have hb' := hb ▸ he
        simp only [dialled] at hb'
        simp only [hb']
        exact .unbound s e hst ha he

theorem connectServer_spec (i : Nat) (w : World N) :
    m.Connecting i w (m.connectServer i w).1 (m.connectServer i w).2 := by
  cases h : (m.liveSession i w).1 with
  | none =>
    rw [m.connectServer_of_not_live h]
    exact m.openSession_spec (m.stale_of_not_live h)
  | some s =>
    rw [m.connectServer_of_live h]
    obtain ⟨hs, hc⟩ := Option.filter_eq_some_iff.mp h
    exact .kept s hs hc

namespace Connecting

variable {m} {i : Nat} {w w' : World N} {answer : Except ClientError SessionId}

theorem size (h : m.Connecting i w answer w') : w'.registry.size = w.registry.size := by
  have hsize : (cleared i w).registry.size = w.registry.size := w.registry.size_setSession i none
  cases h with
  | kept s hs hc => rfl
  | refused e hst hd => exact hsize
  | bound s hst hd hb => exact (Registry.size_setSession _ i (some s)).trans hsize
  | unbound s e hst hd hb => exact hsize

/-- Connecting changes no record. -/
theorem record (h : m.Connecting i w answer w') (j : Nat) :
    (w'.registry.server j).record = (w.registry.server j).record := by
  cases h with
  | kept s hs hc => rfl
  | refused e hst hd => exact record_cleared i j w
  | bound s hst hd hb =>
    exact (Registry.record_setSession _ i j (some s)).trans (record_cleared i j w)
  | unbound s e hst hd hb => exact record_cleared i j w

/-- Nothing is dialled but the server, and nothing else happens than a bind and a close. -/
theorem exists_log (h : m.Connecting i w answer w') : ∃ new, w'.log = new ++ w.log ∧
    ∀ e ∈ new,
      e = .connect i (m.settings (w.registry.server i).record) (m.dialAnswer i w) ∨
      (∃ s, e = .bind s (w.registry.server i).record.bindRequest (m.bindAnswer i s w)) ∨
      ∃ s a, e = .close s a := by
  cases h with
  | kept s hs hc => exact ⟨[], rfl, List.forall_mem_nil _⟩
  | refused e hst hd => exact ⟨[_], m.log_dialled i w, by simp⟩
  | bound s hst hd hb => exact ⟨[_, _], m.log_loggedIn i s w, by simp⟩
  | unbound s e hst hd hb =>
    refine ⟨[_, _, _], congrArg (_ :: ·) (m.log_loggedIn i s w), ?_⟩
    simp

/-- A server without a session is dialled. -/
theorem dials (h : m.Connecting i w answer w') (hs : (w.registry.server i).session = none) :
    Event.connect i (m.settings (w.registry.server i).record) (m.dialAnswer i w) ∈ w'.log := by
  cases h with
  | kept s hs' hc =>
    rw [hs] at hs'
    cases hs'
  | refused e hst hd => exact List.mem_cons_self
  | bound s hst hd hb => exact List.mem_cons_of_mem _ List.mem_cons_self
  | unbound s e hst hd hb =>
    exact List.mem_cons_of_mem _ (List.mem_cons_of_mem _ List.mem_cons_self)

/-- A new session is bound as the record of its server says. -/
theorem binds (h : m.Connecting i w answer w') (hs : (w.registry.server i).session = none)
    {s : SessionId} (hd : m.dialAnswer i w = .ok (some s)) :
    Event.bind s (w.registry.server i).record.bindRequest (m.bindAnswer i s w) ∈ w'.log := by
  cases h with
  | kept s' hs' hc =>
    rw [hs] at hs'
    cases hs'
  | refused e hst hd' => exact absurd hd (hd' s)
  | bound s' hst hd' hb =>
    obtain rfl := Option.some.inj (Except.ok.inj (hd.symm.trans hd'))
    exact List.mem_cons_self
  | unbound s' e hst hd' hb =>
    obtain rfl := Option.some.inj (Except.ok.inj (hd.symm.trans hd'))
    exact List.mem_cons_of_mem _ List.mem_cons_self

end Connecting

/-- A server that a URL brings has no session yet, so that it is connected at once. -/
theorem connecting_of_new {url : LdapUrl} {w : World N}
    (hn : w.registry.find? m.schema url = none) :
    ∃ answer, m.Connecting w.registry.size (m.selectForUrl url w).2 answer
      (m.connectionForUrl url w).2 := by
  have hc := m.connectServer_spec (m.selectForUrl url w).1 (m.selectForUrl url w).2
  have hw : (m.connectServer (m.selectForUrl url w).1 (m.selectForUrl url w).2).2 =
      (m.connectionForUrl url w).2 := rfl
  rw [hw, selectForUrl_of_new hn] at hc
  exact ⟨_, hc⟩

/-- what the answer to a close becomes, if it is an error -/
def closeError (r : ServerRecord) : Except Failure Unit → Option ClientError
  | .ok _ => none
  | .error f => some (m.classifier.failureError f r.host r.port)

theorem closeServer_of_none {i : Nat} {w : World N}
    (hs : (w.registry.server i).session = none) : m.closeServer i w = (none, w) := by
  have hserver : (server i w).1.session = none := hs
  simp only [closeServer, Act.bind_apply, hserver]
  rfl

theorem closeServer_of_some {i : Nat} {w : World N} {s : SessionId}
    (hs : (w.registry.server i).session = some s) :
    m.closeServer i w = (m.closeError (w.registry.server i).record (m.transport.close s w.net).1,
      (m.transport.hangUp s (cleared i w)).2) := by
  have hserver : (server i w).1.session = some s := hs
  simp only [closeServer, Act.bind_apply, hserver]
  show (match (m.transport.close s w.net).1 with
    | .ok _ => _
    | .error f => _ : Act N (Option ClientError)) (m.transport.hangUp s (cleared i w)).2 = _
  cases (m.transport.close s w.net).1 <;> rfl

/-- The session that is stored, if there is one, is taken away and closed. -/
theorem closeServer_cases (i : Nat) (w : World N) :
    ((w.registry.server i).session = none ∧ m.closeServer i w = (none, w)) ∨
    ∃ s, (w.registry.server i).session = some s ∧
      (m.closeServer i w).2 = (m.transport.hangUp s (cleared i w)).2 := by
  cases hs : (w.registry.server i).session with
  | none => exact .inl ⟨rfl, m.closeServer_of_none hs⟩
  | some s => exact .inr ⟨s, rfl, by rw [m.closeServer_of_some hs]⟩

theorem size_closeServer (i : Nat) (w : World N) :
    (m.closeServer i w).2.registry.size = w.registry.size := by
  rcases m.closeServer_cases i w with ⟨-, h⟩ | ⟨s, -, h⟩ <;> rw [h]
  exact w.registry.size_setSession i none

end Manager

end DirectoryClient
