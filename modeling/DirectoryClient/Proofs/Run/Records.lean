import DirectoryClient.Proofs.Config.Validation
import DirectoryClient.Proofs.Run.Reachable

/-!
# The records of servers in runs

Records never change; those that join come from URLs.  Connections are opened as records demand.

* `Manager.Grows`       what a piece of work does to records, and which servers it dials;
* `Work.grows`          every piece of work does so;
* `Manager.Recorded`    what is known about the servers of a world (`recorded`).
-/

namespace DirectoryClient

namespace Manager

variable {N : Type} (m : Manager N)

structure Grows (w w' : World N) : Prop where
  size : w.registry.size ≤ w'.registry.size
  kept : ∀ i < w.registry.size, (w'.registry.server i).record = (w.registry.server i).record
  /-- what joins comes from a URL -/
  joined : ∀ i < w'.registry.size, w.registry.size ≤ i → ∃ url, Event.located url i ∈ w'.log ∧
    (w'.registry.server i).record = .ofReferral m.schema w.registry.first.record url
  past : ∀ e ∈ w.log, e ∈ w'.log
  /-- what is dialled is dialled as its record demands -/
  dialled : ∀ i settings a, Event.connect i settings a ∈ w'.log →
    Event.connect i settings a ∈ w.log ∨
      i < w.registry.size ∧ settings = m.settings (w.registry.server i).record

variable {m} {w w' : World N}

/-- Nothing joins. -/
theorem Grows.of_size (hsize : w'.registry.size = w.registry.size)
    (hkept : ∀ i < w.registry.size, (w'.registry.server i).record = (w.registry.server i).record)
    (new : List Event) (hlog : w'.log = new ++ w.log)
    (hnew : ∀ i settings a, Event.connect i settings a ∈ new →
      i < w.registry.size ∧ settings = m.settings (w.registry.server i).record) :
    m.Grows w w' where
  size := Nat.le_of_eq hsize.symm
  kept := hkept
  joined i hi hge := absurd (hsize ▸ hi) (Nat.not_lt_of_le hge)
  past e he := hlog ▸ List.mem_append_right _ he
  dialled i settings a hm := by
    rw [hlog] at hm
    rcases List.mem_append.mp hm with hm | hm
    · exact .inr (hnew i settings a hm)
    · exact .inl hm

/-- Nothing joins and nothing is dialled. -/
theorem Grows.of_registry (hreg : w'.registry = w.registry) (new : List Event)
    (hlog : w'.log = new ++ w.log) (hnew : ∀ i settings a, Event.connect i settings a ∉ new) :
    m.Grows w w' := by
  refine .of_size (by rw [hreg]) (fun i _ => by rw [hreg]) new hlog fun i settings a hm => ?_
  exact absurd hm (hnew i settings a)

theorem grows_locate (url : LdapUrl) (w : World N) : m.Grows w (m.selectForUrl url w).2 := by
  have hlog : (m.selectForUrl url w).2.log =
      [.located url (m.selectForUrl url w).1] ++ w.log := rfl
  have happly := m.selectForUrl_apply url w
  have hreg := m.registry_selectForUrl url w
  rcases w.registry.enrol_cases m.schema url with ⟨i, -, -, he⟩ | ⟨-, he⟩ <;>
    rw [he] at happly hreg
  · exact .of_registry hreg _ hlog (by simp)
  · refine ⟨?_, ?_, ?_, fun e he => hlog ▸ List.mem_cons_of_mem _ he, fun i settings a hm => ?_⟩
    · rw [hreg, Registry.size_push]
      exact Nat.le_succ _
    · intro i hi
      rw [hreg, Registry.server_push_of_lt _ hi]
    · intro i hi hge
      rw [hreg, Registry.size_push] at hi
      obtain rfl : i = w.registry.size := Nat.le_antisymm (Nat.le_of_lt_succ hi) hge
      refine ⟨url, ?_, by rw [hreg, Registry.server_push_size]⟩
      rw [hlog, happly]
      exact List.mem_cons_self
    · rw [hlog] at hm
      exact .inl ((List.mem_cons.mp hm).resolve_left nofun)

theorem grows_detach (i : Nat) (w : World N) : m.Grows w (m.closeServer i w).2 := by
  rcases m.closeServer_cases i w with ⟨-, hw⟩ | ⟨s, -, hw⟩ <;> rw [hw]
  · exact .of_registry rfl [] rfl fun _ _ _ => List.not_mem_nil
  · refine .of_size ?_ (fun j _ => record_cleared i j w) [_] rfl (by simp)
    exact w.registry.size_setSession i none

theorem grows_attach {i : Nat} (hi : i < w.registry.size) :
    m.Grows w (m.connectServer i w).2 := by
  have hc := m.connectServer_spec i w
  obtain ⟨new, hlog, hnew⟩ := hc.exists_log
  refine .of_size hc.size (fun j _ => hc.record j) new hlog fun j settings a hm => ?_
  obtain he | ⟨s, he⟩ | ⟨s, b, he⟩ := hnew _ hm
  · obtain ⟨rfl, rfl, -⟩ := Event.connect.inj he
    exact ⟨hi, rfl⟩
  · cases he
  · cases he

theorem Work.grows (h : m.Work w w') : m.Grows w w' := by
  rcases h.kinds with ⟨url, rfl⟩ | ⟨i, hi, rfl⟩ | ⟨i, -, rfl⟩ | ⟨hreg, new, hlog, hnew⟩
  · exact grows_locate url w
  · exact grows_attach hi
  · exact grows_detach i w
  · exact .of_registry hreg new hlog fun _ _ _ hm => hnew _ hm

/-! ## The servers of a world -/

/-- whether the server at a position joined because of a URL -/
def Brought (m : Manager N) (w : World N) (i : Nat) (url : LdapUrl) : Prop :=
  Event.located url i ∈ w.log ∧
    (w.registry.server i).record = .ofReferral m.schema w.registry.first.record url

variable (m) in
structure Recorded (w : World N) : Prop where
  /-- a server is configured, and may be dialled, or a URL brought it -/
  source : ∀ i < w.registry.size,
    (w.registry.server i).record.isReferral = false ∧
      hostFlaw (w.registry.server i).record.host = none ∨
    ∃ url, m.Brought w i url
  dialled : ∀ i settings a, Event.connect i settings a ∈ w.log →
    i < w.registry.size ∧ settings = m.settings (w.registry.server i).record

theorem Grows.first (h : m.Grows w w') :
    w'.registry.first.record = w.registry.first.record := h.kept 0 Registry.size_pos

theorem Brought.grows {i : Nat} {url : LdapUrl} (hb : m.Brought w i url)
    (hi : i < w.registry.size) (h : m.Grows w w') : m.Brought w' i url := by
  refine ⟨h.past _ hb.1, ?_⟩
  rw [h.kept i hi, h.first]
  exact hb.2

theorem Recorded.grows (hr : m.Recorded w) (h : m.Grows w w') : m.Recorded w' := by
  refine ⟨fun i hi => ?_, fun i settings a hm => ?_⟩
  · by_cases hlt : i < w.registry.size
    · rcases hr.source i hlt with ⟨ho, hf⟩ | ⟨url, hb⟩
      · rw [h.kept i hlt]
        exact .inl ⟨ho, hf⟩
      · exact .inr ⟨url, hb.grows hlt h⟩
    · obtain ⟨url, hl, he⟩ := h.joined i hi (Nat.le_of_not_lt hlt)
      exact .inr ⟨url, hl, by rw [he, h.first]⟩
  · obtain ⟨hi, rfl⟩ : i < w.registry.size ∧ settings = m.settings (w.registry.server i).record := by
      rcases h.dialled i settings a hm with hm | hm
      · exact hr.dialled i settings a hm
      · exact hm
    exact ⟨Nat.lt_of_lt_of_le hi h.size, by rw [h.kept i hi]⟩

theorem recorded_start {registry : Registry}
    (h : Registry.ofConfig m.schema m.config = .ok registry) (net : N) (chance : Nat → Nat) :
    m.Recorded { net, registry, chance } where
  source i _ := .inl (Registry.hostFlaw_of_ofConfig h _ (Registry.server_mem registry i))
  dialled _ _ _ hm := absurd hm List.not_mem_nil

theorem recorded {drift : N → N → Prop} (hw : m.Reachable drift w) : m.Recorded w :=
  hw.invariant (fun _ net chance h => recorded_start h net chance)
    (fun _ _ hs h => h.grows hs.grows) fun _ _ _ h => ⟨h.source, h.dialled⟩

end Manager

end DirectoryClient
