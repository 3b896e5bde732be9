import DirectoryClient.Proofs.Run.Growth
import DirectoryClient.Proofs.Run.Hosts

/-!
# Which connections are secured

Configured servers are secured if the configuration says so.  A server that a URL brings is secured
if its URL asks for TLS or the default server uses StartTLS; TLS of the default server is not handed
on.

* `Config.IsSecured`        no server is configured to be plain;
* `World.DialsSecured`      no server is dialled without security;
* `plain_ofReferral_iff`    when a server that a URL brings is plain;
* `unsecured_dialled`       whatever the configuration, a plain one is dialled and bound;
* `plain_dialled_iff`       which connections are plain in runs with a secured configuration;
* `plain_password_sent`     a referral gets the password of the default server in the clear.
-/

namespace DirectoryClient

def Config.IsSecured (c : Config) : Prop :=
  c.security ≠ .plain ∧ ∀ s ∈ c.servers, s.security ≠ some .plain

def World.DialsSecured {N : Type} (w : World N) : Prop :=
  ∀ i settings a, Event.connect i settings a ∈ w.log → settings.security ≠ .plain

/-! ## Records -/

namespace ServerRecord

variable {schema : Schema} {c : Config} {r : ServerRecord}

theorem security_ofConfig (h : ofConfig schema c = .ok r) : r.security = c.security := by
  unfold ofConfig at h
  cases hc : contextOf schema c.baseContext with
  | error e => rw [hc] at h; cases h
  | ok d =>
    rw [hc] at h
    obtain rfl := Except.ok.inj h
    rfl

theorem security_ofServer {s : ServerConfig} (h : ofServer schema c s = .ok r) :
    r.security = s.security.getD c.security := by
  unfold ofServer at h
  cases hc : contextOf schema s.baseContext with
  | error e => rw [hc] at h; cases h
  | ok d =>
    rw [hc] at h
    obtain rfl := Except.ok.inj h
    rfl

/-- A server is plain if neither its URL nor the template asks for more; TLS of the template does not
count. -/
theorem plain_ofReferral_iff {template : ServerRecord} {url : LdapUrl} :
    (ofReferral schema template url).security = .plain ↔
      url.secure = false ∧ template.security ≠ .startTls := by
  cases hu : url.secure <;> simp [ofReferral, hu]

end ServerRecord

theorem Config.IsSecured.servers {schema : Schema} {c : Config} (h : c.IsSecured)
    {rest : List ServerRecord} (hr : c.servers.mapM (ServerRecord.ofServer schema c) = .ok rest) :
    ∀ r ∈ rest, r.security ≠ .plain := by
  intro r hm
  obtain ⟨s, hs, he⟩ := exists_of_mapM hr r hm
  rw [ServerRecord.security_ofServer he]
  have hne := h.2 s hs
  cases hsec : s.security with
  | none => exact h.1
  | some x => exact fun hx => hne (hsec.trans (congrArg some hx))

namespace Manager

variable {N : Type} {m : Manager N} {w : World N}

/-! ## Runs -/

theorem Reachable.security_first {drift : N → N → Prop} (hw : m.Reachable drift w) :
    w.registry.first.record.security = m.config.security := by
  obtain ⟨first, rest, hfirst, -, -, hg⟩ := hw.exists_grown
  rw [show w.registry.first.record = first from (List.cons.inj hg.records).1]
  exact ServerRecord.security_ofConfig hfirst

/-- Servers that were there from the beginning are as the configuration wants them. -/
theorem Reachable.configured_ne_plain {drift : N → N → Prop} (hw : m.Reachable drift w)
    (hc : m.config.IsSecured) {i : Nat} (hi : i < w.registry.size)
    (ho : (w.registry.server i).record.isReferral = false) :
    (w.registry.server i).record.security ≠ .plain := by
  obtain ⟨first, rest, hfirst, hrest, -, hg⟩ := hw.exists_grown
  have hm : (w.registry.server i).record ∈ w.registry.records :=
    Registry.mem_records_iff.mpr ⟨i, hi, rfl⟩
  rw [hg.records] at hm
  rcases List.mem_append.mp hm with hm | hm
  · rcases List.mem_cons.mp hm with he | hm
    · rw [he, ServerRecord.security_ofConfig hfirst]
      exact hc.1
    · exact hc.servers hrest _ hm
  · obtain ⟨url, -, he⟩ := List.mem_map.mp hm
    rw [← he] at ho
    cases ho

theorem Reachable.dialled_plain_iff {drift : N → N → Prop} (hw : m.Reachable drift w)
    (hc : m.config.IsSecured) {i : Nat} {settings : Settings}
    {a : Except Failure (Option SessionId)} (hm : Event.connect i settings a ∈ w.log) :
    settings.security = .plain ↔
      m.config.security = .tls ∧ ∃ url, m.Brought w i url ∧ url.secure = false := by
  have hr := recorded hw
  obtain ⟨hi, rfl⟩ := hr.dialled i settings a hm
  have hbrought (url : LdapUrl) (hb : m.Brought w i url) :
      (w.registry.server i).record.security = .plain ↔
        url.secure = false ∧ m.config.security ≠ .startTls := by
    rw [hb.2, ServerRecord.plain_ofReferral_iff, hw.security_first]
  constructor
  · intro hp
    rcases hr.source i hi with ⟨ho, -⟩ | ⟨url, hb⟩
    · exact absurd hp (hw.configured_ne_plain hc hi ho)
    · obtain ⟨hu, hs⟩ := (hbrought url hb).mp hp
      refine ⟨?_, url, hb, hu⟩
      cases h : m.config.security with
      | plain => exact absurd h hc.1
      | tls => rfl
      | startTls => exact absurd h hs
  · rintro ⟨ht, url, hb, hu⟩
    exact (hbrought url hb).mpr ⟨hu, by rw [ht]; decide⟩

/-- Nothing asks whether a URL is secured before the credentials of the default server are used. -/
theorem unsecured_dialled {url : LdapUrl} (hn : w.registry.find? m.schema url = none)
    (hu : url.secure = false) (ht : w.registry.first.record.security ≠ .startTls) :
    ∃ settings a, settings.host = url.host ∧ settings.security = .plain ∧
      Event.connect w.registry.size settings a ∈ (m.connectionForUrl url w).2.log ∧
      ∀ s, a = .ok (some s) →
        ∃ b, Event.bind s w.registry.first.record.bindRequest b ∈
          (m.connectionForUrl url w).2.log := by
  obtain ⟨answer, hc⟩ := m.connecting_of_new hn
  have hserver := server_selectForUrl_of_new hn
  have hdial := hc.dials (by rw [hserver])
  have hbind {s : SessionId} := hc.binds (s := s) (by rw [hserver])
  rw [hserver] at hdial hbind
  have hplain : (ServerRecord.ofReferral m.schema w.registry.first.record url).security = .plain :=
    ServerRecord.plain_ofReferral_iff.mpr ⟨hu, ht⟩
  exact ⟨_, _, rfl, hplain, hdial, fun s hs => ⟨_, hbind hs⟩⟩

/-- **With a secured configuration a connection is plain exactly if the configuration demands TLS and
the server comes from a URL that does not, and every new URL of that kind gets such a connection.** -/
theorem plain_dialled_iff {drift : N → N → Prop} (hw : m.Reachable drift w)
    (hc : m.config.IsSecured) :
    (∀ i settings a, Event.connect i settings a ∈ w.log → (settings.security = .plain ↔
      m.config.security = .tls ∧ ∃ url, m.Brought w i url ∧ url.secure = false)) ∧
    (m.config.security = .startTls → w.DialsSecured) ∧
    ∀ url, m.config.security = .tls → url.secure = false →
      w.registry.find? m.schema url = none →
      ∃ settings a, settings.host = url.host ∧ settings.security = .plain ∧
        Event.connect w.registry.size settings a ∈ (m.connectionForUrl url w).2.log ∧
        ∀ s, a = .ok (some s) →
          ∃ b, Event.bind s w.registry.first.record.bindRequest b ∈
            (m.connectionForUrl url w).2.log := by
  refine ⟨fun i settings a hm => hw.dialled_plain_iff hc hm, fun hs i settings a hm hp => ?_,
    fun url ht hu hn => ?_⟩
  · have htls := ((hw.dialled_plain_iff hc hm).mp hp).1
    rw [hs] at htls
    cases htls
  · refine unsecured_dialled hn hu ?_
    rw [hw.security_first, ht]
    decide

end Manager

namespace Scripted

/-- the small client, with TLS -/
def guarded : Manager Network := { client with config := { client.config with security := .tls } }

def guardedHome : Registry :=
  { home with first := { record := { home.first.record with port := 636, security := .tls } } }

def guardedStart : World Network := { net := {}, registry := guardedHome, chance := fun _ => 0 }

/-- the client after a referral to a server without TLS -/
def exposed : World Network :=
  guarded.perform (.connectionForReferral ⟨["ldap://ref.example.com/"]⟩) guardedStart

def unguarded : LdapUrl := ⟨"ldap://ref.example.com/", false, "ref.example.com", 389, ""⟩

theorem reachable_guardedStart (drift : Network → Network → Prop) :
    guarded.Reachable drift guardedStart :=
  .start (show Registry.ofConfig guarded.schema guarded.config = .ok guardedHome from rfl) _ _

theorem reachable_exposed (drift : Network → Network → Prop) : guarded.Reachable drift exposed :=
  .perform (reachable_guardedStart drift) _

theorem isSecured_guarded : guarded.config.IsSecured := ⟨by decide, List.forall_mem_nil _⟩

theorem brought_exposed : guarded.Brought exposed 1 unguarded :=
  ⟨List.mem_of_getElem? (i := 2) rfl, rfl⟩

theorem dialled_exposed : Event.connect 1
    { guarded.settings guardedHome.first.record with
      host := "ref.example.com", port := 389, security := .plain }
    (.ok (some ⟨1⟩)) ∈ exposed.log := List.mem_of_getElem? (i := 1) rfl

/-- Not every run with a secured configuration keeps to secured connections: here the password of the
default server goes out on a plain one. -/
theorem plain_password_sent :
    Event.bind ⟨1⟩ ⟨"cn=reader", "secret"⟩ (.ok { code := ResultCode.success }) ∈ exposed.log ∧
      ¬ ∀ (m : Manager Network) (drift : Network → Network → Prop) (w : World Network),
        m.Reachable drift w → m.config.IsSecured → w.DialsSecured := by
  refine ⟨List.mem_of_getElem? (i := 0) rfl, fun h => ?_⟩
  have hw := reachable_exposed fun _ _ => False
  exact h guarded _ exposed hw isSecured_guarded 1 _ _ dialled_exposed rfl

theorem plain_dialled_iff_exposed :
    guarded.Reachable (fun _ _ => False) exposed ∧ guarded.config.IsSecured ∧
      guarded.config.security = .tls ∧ guarded.Brought exposed 1 unguarded ∧
      (Security.plain = .plain ↔ guarded.config.security = .tls ∧
        ∃ url, guarded.Brought exposed 1 url ∧ url.secure = false) ∧
      ∃ settings a, settings.host = "ref.example.com" ∧ settings.security = .plain ∧
        Event.connect 1 settings a ∈ (guarded.connectionForUrl unguarded guardedStart).2.log := by
  have hw := reachable_exposed fun _ _ => False
  have hnew : guardedStart.registry.find? guarded.schema unguarded = none := by decide
  have hplain := (Manager.plain_dialled_iff hw isSecured_guarded).1 1 _ _ dialled_exposed
  have hstart := Manager.plain_dialled_iff (reachable_guardedStart fun _ _ => False)
    isSecured_guarded
  obtain ⟨settings, a, hhost, hsec, hdial, -⟩ := hstart.2.2 unguarded rfl rfl hnew
  exact ⟨hw, isSecured_guarded, rfl, brought_exposed, hplain, settings, a, hhost, hsec, hdial⟩

end Scripted

end DirectoryClient
