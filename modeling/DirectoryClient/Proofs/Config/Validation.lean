import DirectoryClient.Proofs.Attempts
import DirectoryClient.Proofs.Registry

/-!
# What a valid configuration promises

* `Config.hostFlaw_of_flaw`        the hosts of a configuration without flaws may be dialled;
* `ServerRecord.contextOf_ofConfig`, `contextOf_ofServer`   the context of a server is the one that its
                                   entry gives;
* `Registry.hostFlaw_of_ofConfig`  so may the servers of the registry that it gives.
-/

namespace DirectoryClient

theorem ServerConfig.hostFlaw_of_flaw {i : Nat} {s : ServerConfig} (h : s.flaw i = none) :
    hostFlaw s.host = none := by
  unfold flaw at h
  split at h
  · cases h
  · simp only [Option.orElse_eq_orElse, Option.orElse_eq_or, Option.or_eq_none_iff] at h
    exact h.1

namespace Config

theorem hostFlaw_of_serversFlaw {i : Nat} {l : List ServerConfig} (h : serversFlaw i l = none) :
    ∀ s ∈ l, hostFlaw s.host = none := by
  induction l generalizing i with
  | nil => exact List.forall_mem_nil _
  | cons a l ih =>
    simp only [serversFlaw, Option.orElse_eq_orElse, Option.orElse_eq_or,
      Option.or_eq_none_iff] at h
    exact List.forall_mem_cons.mpr ⟨ServerConfig.hostFlaw_of_flaw h.1, ih h.2⟩

theorem hostFlaw_of_flaw {c : Config} (h : c.flaw = none) :
    hostFlaw c.host = none ∧ ∀ s ∈ c.servers, hostFlaw s.host = none := by
  unfold flaw at h
  split at h
  · cases h
  · simp only [Option.orElse_eq_orElse, Option.orElse_eq_or, Option.or_eq_none_iff] at h
    exact ⟨h.1, hostFlaw_of_serversFlaw h.2.2.2⟩

end Config

namespace ServerRecord

variable {schema : Schema} {c : Config} {r : ServerRecord}

theorem host_ofConfig (h : ofConfig schema c = .ok r) : r.host = c.host ∧ r.isReferral = false := by
  unfold ofConfig at h
  cases hc : contextOf schema c.baseContext with
  | error e => rw [hc] at h; cases h
  | ok d =>
    rw [hc] at h
    obtain rfl := Except.ok.inj h
    exact ⟨rfl, rfl⟩

theorem host_ofServer {s : ServerConfig} (h : ofServer schema c s = .ok r) :
    r.host = s.host ∧ r.isReferral = false := by
  unfold ofServer at h
  cases hc : contextOf schema s.baseContext with
  | error e => rw [hc] at h; cases h
  | ok d =>
    rw [hc] at h
    obtain rfl := Except.ok.inj h
    exact ⟨rfl, rfl⟩

theorem contextOf_ofConfig (h : ofConfig schema c = .ok r) :
    contextOf schema c.baseContext = .ok r.baseContext := by
  unfold ofConfig at h
  cases hc : contextOf schema c.baseContext with
  | error e => rw [hc] at h; cases h
  | ok context =>
    rw [hc] at h
    obtain rfl := Except.ok.inj h
    rfl

theorem contextOf_ofServer {s : ServerConfig} (h : ofServer schema c s = .ok r) :
    contextOf schema s.baseContext = .ok r.baseContext := by
  unfold ofServer at h
  cases hc : contextOf schema s.baseContext with
  | error e => rw [hc] at h; cases h
  | ok context =>
    rw [hc] at h
    obtain rfl := Except.ok.inj h
    rfl

end ServerRecord

/-- Every server of a valid configuration may be dialled. -/
theorem Registry.hostFlaw_of_ofConfig {schema : Schema} {c : Config} {r : Registry}
    (h : ofConfig schema c = .ok r) : ∀ x ∈ r.servers,
      x.record.isReferral = false ∧ hostFlaw x.record.host = none := by
  obtain ⟨hf, first, rest, hfirst, hrest, rfl⟩ := ofConfig_cases h
  obtain ⟨hc, hs⟩ := Config.hostFlaw_of_flaw hf
  refine List.forall_mem_cons.mpr ⟨?_, ?_⟩
  · obtain ⟨hh, ho⟩ := ServerRecord.host_ofConfig hfirst
    exact ⟨ho, hh ▸ hc⟩
  · intro x hx
    obtain ⟨y, hy, rfl⟩ := List.mem_map.mp hx
    obtain ⟨z, hz, he⟩ := exists_of_mapM hrest y hy
    obtain ⟨hh, ho⟩ := ServerRecord.host_ofServer he
    exact ⟨ho, hh ▸ hs z hz⟩

end DirectoryClient
