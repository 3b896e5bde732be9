import DirectoryClient.Proofs.Run.Records
import DirectoryClient.Proofs.Scripted.Lawful

/-!
# Which hosts are dialled

Validation looks at the hosts of a configuration; nothing looks at the hosts of URLs.

* `World.DialsAllowed`   no host is dialled that validation rejects;
* `url_dialled`          whatever its host, a URL that no server covers is dialled;
* `hosts_dialled`        a rejected host is dialled exactly if a URL brought the server;
* `rejected_host_dialled`   a referral leads the client to its own machine.
-/

namespace DirectoryClient

def World.DialsAllowed {N : Type} (w : World N) : Prop :=
  ∀ i settings a, Event.connect i settings a ∈ w.log → hostFlaw settings.host = none

namespace Manager

variable {N : Type} {m : Manager N} {w : World N}

theorem Brought.host {i : Nat} {url : LdapUrl} (hb : m.Brought w i url) :
    (m.settings (w.registry.server i).record).host = url.host := by
  rw [hb.2]
  rfl

/-- A rejected host is dialled only if it comes from a URL. -/
theorem Recorded.hostFlaw_iff (hr : m.Recorded w) {i : Nat} {settings : Settings}
    {a : Except Failure (Option SessionId)} (hm : Event.connect i settings a ∈ w.log) :
    hostFlaw settings.host = none ↔ ∀ url, m.Brought w i url → hostFlaw url.host = none := by
  obtain ⟨hi, rfl⟩ := hr.dialled i settings a hm
  constructor
  · intro hf url hb
    rwa [hb.host] at hf
  · intro hall
    rcases hr.source i hi with ⟨-, hf⟩ | ⟨url, hb⟩
    · exact hf
    · rw [hb.host]
      exact hall url hb

/-- Nothing looks at the host of a URL. -/
theorem url_dialled {url : LdapUrl} (hn : w.registry.find? m.schema url = none) :
    ∃ settings a, settings.host = url.host ∧
      Event.connect w.registry.size settings a ∈ (m.connectionForUrl url w).2.log := by
  obtain ⟨answer, hc⟩ := m.connecting_of_new hn
  have hserver := server_selectForUrl_of_new hn
  have hdial := hc.dials (by rw [hserver])
  rw [hserver] at hdial
  exact ⟨_, _, rfl, hdial⟩

/-- **A host that validation rejects is dialled exactly if it comes from a URL, and the host of every
new URL is dialled.** -/
theorem hosts_dialled {drift : N → N → Prop} (hw : m.Reachable drift w) :
    (w.DialsAllowed ↔ ∀ i settings a, Event.connect i settings a ∈ w.log →
      ∀ url, m.Brought w i url → hostFlaw url.host = none) ∧
    ∀ url, w.registry.find? m.schema url = none → ∃ settings a, settings.host = url.host ∧
      Event.connect w.registry.size settings a ∈ (m.connectionForUrl url w).2.log := by
  refine ⟨?_, fun url hn => url_dialled hn⟩
  have hr := recorded hw
  constructor
  · exact fun h i settings a hm => (hr.hostFlaw_iff hm).mp (h i settings a hm)
  · exact fun h i settings a hm => (hr.hostFlaw_iff hm).mpr (h i settings a hm)

end Manager

namespace Scripted

/-- the client after a referral to its own machine -/
def redirected : World Network :=
  client.perform (.connectionForReferral ⟨["ldap://127.0.0.1/"]⟩) (started {})

def loopback : LdapUrl := ⟨"ldap://127.0.0.1/", false, "127.0.0.1", 389, ""⟩

theorem reachable_redirected (drift : Network → Network → Prop) :
    client.Reachable drift redirected := .perform (reachable_started drift {}) _

theorem dialled_redirected :
    Event.connect 1 { client.settings home.first.record with host := "127.0.0.1" }
      (.ok (some ⟨1⟩)) ∈ redirected.log := List.mem_of_getElem? (i := 1) rfl

theorem hostFlaw_loopback : hostFlaw loopback.host = some (.internalAddress "127.0.0.1") := by
  decide

theorem brought_redirected : client.Brought redirected 1 loopback :=
  ⟨List.mem_of_getElem? (i := 2) rfl, rfl⟩

/-- Not every run dials the hosts alone that validation lets pass. -/
theorem rejected_host_dialled : ¬ ∀ (m : Manager Network) (drift : Network → Network → Prop)
    (w : World Network), m.Reachable drift w → w.DialsAllowed := by
  intro h
  have hall := h client (fun _ _ => False) redirected (reachable_redirected _)
  have hf := hall 1 _ _ dialled_redirected
  have hl := hostFlaw_loopback
  rw [show loopback.host = "127.0.0.1" from rfl] at hl
  rw [hl] at hf
  cases hf

theorem hosts_dialled_redirected :
    client.Reachable (fun _ _ => False) redirected ∧ client.Brought redirected 1 loopback ∧
      home.find? client.schema loopback = none ∧
      (redirected.DialsAllowed ↔ ∀ i settings a, Event.connect i settings a ∈ redirected.log →
        ∀ url, client.Brought redirected i url → hostFlaw url.host = none) ∧
      ∃ settings a, settings.host = "127.0.0.1" ∧
        Event.connect 1 settings a ∈ (client.connectionForUrl loopback (started {})).2.log := by
  have hw := reachable_redirected fun _ _ => False
  have hnew : (started {}).registry.find? client.schema loopback = none := by decide
  have hstart := Manager.hosts_dialled (reachable_started (fun _ _ => False) {})
  exact ⟨hw, brought_redirected, hnew, (Manager.hosts_dialled hw).1, hstart.2 loopback hnew⟩

end Scripted

end DirectoryClient
