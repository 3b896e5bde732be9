import DirectoryClient.Proofs.Config.Validation
import DirectoryClient.Proofs.Registry.Growth
import DirectoryClient.Proofs.Run.Records
import DirectoryClient.Proofs.Scripted.Lawful

/-!
# The registry in runs

Which servers are known at some point of a run follows from the URLs that were looked up until then,
and from nothing else.

* `World.lookups`        the URLs that were looked up, with the servers that were found;
* `Work.looks`           a piece of work leaves records and look-ups alone, or is one look-up;
* `Work.isPrefix`        records are neither changed nor moved;
* `Manager.Grown`        the records that the look-ups make (`Grown.work`);
* `Manager.Accounted`    all that is known about the registry of a world;
* `registry_growth`      it holds in every reachable world.
-/

namespace DirectoryClient

def Event.lookup? : Event → Option (LdapUrl × Nat)
  | .located url i => some (url, i)
  | _ => none

/-- the URLs that were looked up in the registry, in the order of time, with the positions found -/
def World.lookups {N : Type} (w : World N) : List (LdapUrl × Nat) :=
  w.events.filterMap Event.lookup?

/-- the URLs alone -/
def World.urls {N : Type} (w : World N) : List LdapUrl := w.lookups.map Prod.fst

namespace Manager

variable {N : Type} {m : Manager N} {w w' : World N}

theorem lookups_of_log {new : List Event} (hlog : w'.log = new ++ w.log)
    (hnew : ∀ e ∈ new, e.lookup? = none) : w'.lookups = w.lookups := by
  have hnil : new.reverse.filterMap Event.lookup? = [] :=
    List.filterMap_eq_nil_iff.mpr fun e he => hnew e (List.mem_reverse.mp he)
  rw [World.lookups, World.events, hlog, List.reverse_append, List.filterMap_append, hnil,
    List.append_nil]
  rfl

theorem lookups_selectForUrl (url : LdapUrl) (w : World N) :
    (m.selectForUrl url w).2.lookups = w.lookups ++ [(url, (m.selectForUrl url w).1)] := by
  have hlog : (m.selectForUrl url w).2.log =
      .located url (m.selectForUrl url w).1 :: w.log := rfl
  rw [World.lookups, World.events, hlog, List.reverse_cons, List.filterMap_append]
  rfl

theorem urls_selectForUrl (url : LdapUrl) (w : World N) :
    (m.selectForUrl url w).2.urls = w.urls ++ [url] := by
  rw [World.urls, lookups_selectForUrl, List.map_append]
  rfl

/-! ## What work does to records and look-ups -/

theorem Connecting.records {i : Nat} {answer : Except ClientError SessionId}
    (h : m.Connecting i w answer w') : w'.registry.records = w.registry.records := by
  have hc : (cleared i w).registry.records = w.registry.records :=
    w.registry.records_setSession i none
  cases h with
  | kept s hs hc => rfl
  | refused e hst hd => exact hc
  | bound s hst hd hb => exact (Registry.records_setSession _ i (some s)).trans hc
  | unbound s e hst hd hb => exact hc

/-- a piece of work that is no look-up -/
structure Keeps (w w' : World N) : Prop where
  records : w'.registry.records = w.registry.records
  lookups : w'.lookups = w.lookups

theorem Work.looks (h : m.Work w w') : Keeps w w' ∨ ∃ url, w' = (m.selectForUrl url w).2 := by
  rcases h.kinds with hurl | ⟨i, -, rfl⟩ | ⟨i, -, rfl⟩ | ⟨hreg, new, hlog, hnew⟩
  · exact .inr hurl
  · have hc := m.connectServer_spec i w
    obtain ⟨new, hlog, hnew⟩ := hc.exists_log
    refine .inl ⟨hc.records, lookups_of_log hlog fun e he => ?_⟩
    rcases hnew e he with rfl | ⟨s, rfl⟩ | ⟨s, a, rfl⟩ <;> rfl
  · rcases m.closeServer_cases i w with ⟨-, hw⟩ | ⟨s, -, hw⟩ <;> rw [hw]
    · exact .inl ⟨rfl, rfl⟩
    · have hlog : [Event.close s (m.transport.close s w.net).1] ++ w.log =
          Event.close s (m.transport.close s w.net).1 :: w.log := rfl
      refine .inl ⟨w.registry.records_setSession i none, lookups_of_log hlog.symm ?_⟩
      exact fun e he => List.mem_singleton.mp he ▸ rfl
  · refine .inl ⟨by rw [hreg], lookups_of_log hlog fun e he => ?_⟩
    have hp := hnew e he
    cases e with
    | located url i => exact absurd hp id
    | _ => rfl

/-! ## Growth -/

/-- Work neither changes nor moves a record; it may add one at the end. -/
theorem Work.isPrefix (h : m.Work w w') : w.registry.records <+: w'.registry.records := by
  rcases h.looks with hk | ⟨url, rfl⟩
  · exact ⟨[], by rw [List.append_nil, hk.records]⟩
  · exact w.registry.isPrefix_enrol m.schema url

variable (m) in
/-- The records are the configured ones and those that the URLs brought; what was found is still what
would be found. -/
structure Grown (first : ServerRecord) (rest : List ServerRecord) (w : World N) : Prop where
  records : w.registry.records = Registry.grown m.schema first rest w.urls
  found : ∀ p ∈ w.lookups, w.registry.find? m.schema p.1 = some p.2

variable {first : ServerRecord} {rest : List ServerRecord}

theorem Grown.locate (h : m.Grown first rest w) (url : LdapUrl) :
    m.Grown first rest (m.selectForUrl url w).2 := by
  have hprefix := w.registry.isPrefix_enrol m.schema url
  refine ⟨?_, fun p hp => ?_⟩
  · rw [urls_selectForUrl, registry_selectForUrl]
    exact Registry.records_enrol h.records url
  · rw [lookups_selectForUrl] at hp
    rcases List.mem_append.mp hp with hp | hp
    · exact Registry.find?_of_prefix hprefix (h.found p hp)
    · rw [List.mem_singleton.mp hp]
      exact Registry.find?_enrol w.registry m.schema url

theorem Grown.work (hs : m.Work w w') (h : m.Grown first rest w) : m.Grown first rest w' := by
  rcases hs.looks with hk | ⟨url, rfl⟩
  · refine ⟨?_, fun p hp => ?_⟩
    · rw [hk.records, World.urls, hk.lookups]
      exact h.records
    · rw [hk.lookups] at hp
      exact Registry.find?_of_prefix hs.isPrefix (h.found p hp)
  · exact h.locate url

theorem grown_start {registry : Registry}
    (hr : registry.records = first :: rest) (net : N) (chance : Nat → Nat) :
    m.Grown first rest { net, registry, chance } where
  records := by rw [hr]; exact (List.append_nil _).symm
  found _ hp := absurd hp List.not_mem_nil

theorem Reachable.grown {drift : N → N → Prop} (hw : m.Reachable drift w)
    (hfirst : ServerRecord.ofConfig m.schema m.config = .ok first)
    (hrest : m.config.servers.mapM (ServerRecord.ofServer m.schema m.config) = .ok rest) :
    m.Grown first rest w := by
  refine hw.invariant (fun registry net chance h => grown_start ?_ net chance)
    (fun _ _ hs h => h.work hs) fun _ _ _ h => ⟨h.records, h.found⟩
  obtain ⟨-, first', rest', hfirst', hrest', rfl⟩ := Registry.ofConfig_cases h
  obtain rfl := Except.ok.inj (hfirst.symm.trans hfirst')
  obtain rfl := Except.ok.inj (hrest.symm.trans hrest')
  exact Registry.records_mk first rest

/-- The registry of a reachable world grew from configured servers. -/
theorem Reachable.exists_grown {drift : N → N → Prop} (hw : m.Reachable drift w) :
    ∃ first rest, ServerRecord.ofConfig m.schema m.config = .ok first ∧
      m.config.servers.mapM (ServerRecord.ofServer m.schema m.config) = .ok rest ∧
      (∀ x ∈ first :: rest, x.isReferral = false) ∧ m.Grown first rest w := by
  obtain ⟨registry, hstart⟩ := hw.accepted
  obtain ⟨-, first, rest, hfirst, hrest, hreg⟩ := Registry.ofConfig_cases hstart
  refine ⟨first, rest, hfirst, hrest, fun x hx => ?_, hw.grown hfirst hrest⟩
  have hmem : x ∈ registry.records := by rwa [hreg, Registry.records_mk]
  obtain ⟨s, hs, rfl⟩ := List.mem_map.mp hmem
  exact (Registry.hostFlaw_of_ofConfig hstart s hs).1

theorem isPrefix_perform (op : Operation) (w : World N) :
    w.registry.records <+: (m.perform op w).registry.records :=
  keeps_of_follows (P := fun v => w.registry.records <+: v.registry.records)
    (fun _ _ hs h => h.trans hs.isPrefix) (follows_perform op w) List.prefix_rfl

variable (m) in
/-- What the servers of a world have to do with the configuration and the URLs that were looked up. -/
structure Accounted (w : World N) : Prop where
  /-- the configured servers, the default one first, then those that URLs brought, one for each kind
  of URL that no configured server covers, in the order in which the kinds were first looked up -/
  records : ∃ first rest, ServerRecord.ofConfig m.schema m.config = .ok first ∧
    m.config.servers.mapM (ServerRecord.ofServer m.schema m.config) = .ok rest ∧
    (∀ x ∈ first :: rest, x.isReferral = false) ∧
    w.registry.records = Registry.grown m.schema first rest w.urls ∧
    ∀ url ∈ w.urls, (first :: rest).any (·.covers m.schema url) = false →
      ∃! v, v ∈ Registry.newcomers m.schema (first :: rest) w.urls ∧ url.alike m.schema v = true
  /-- a look-up finds the first server that covers its URL -/
  answer : ∀ url, (m.selectForUrl url w).2.registry.find? m.schema url =
    some (m.selectForUrl url w).1
  /-- and that server stays the first one to cover it -/
  found : ∀ url i, (url, i) ∈ w.lookups → w.registry.find? m.schema url = some i
  alike : ∀ url url' i j, (url, i) ∈ w.lookups → (url', j) ∈ w.lookups →
    url.alike m.schema url' = true → i = j
  /-- no operation changes, moves or takes away a record -/
  kept : ∀ op, w.registry.records <+: (m.perform op w).registry.records

/-- **Which servers are known follows from the configuration and the URLs that were looked up; look-ups
find the first server that covers a URL, and no record ever changes.** -/
theorem registry_growth {drift : N → N → Prop} (hw : m.Reachable drift w) : m.Accounted w := by
  obtain ⟨first, rest, hfirst, hrest, hconf, hg⟩ := hw.exists_grown
  have hfound (url : LdapUrl) (i : Nat) (h : (url, i) ∈ w.lookups) :
      w.registry.find? m.schema url = some i := hg.found (url, i) h
  refine ⟨⟨first, rest, hfirst, hrest, hconf, hg.records, fun url hu hk => ?_⟩, fun url => ?_,
    hfound, ?_, fun op => isPrefix_perform op w⟩
  · exact Registry.existsUnique_newcomer hu hk
  · exact w.registry.find?_enrol m.schema url
  · intro url url' i j hi hj ha
    have h := (hfound url i hi).symm.trans ((w.registry.find?_congr ha).trans (hfound url' j hj))
    exact Option.some.inj h

end Manager

namespace Scripted

def branch : LdapUrl :=
  ⟨"ldap://branch.example.com/dc=example", false, "branch.example.com", 389, "dc=example"⟩

def office : LdapUrl := ⟨"ldap://ldap.example.com", false, "ldap.example.com", 389, ""⟩

/-- the client after it looked up a new server, the same one written otherwise, and its own -/
def consulted : World Network :=
  let w := client.perform (.selectForUrl branch) (started {})
  let w := client.perform (.selectForReferral ⟨["ldap://Branch.Example.com:389/DC=Example"]⟩) w
  client.perform (.selectForUrl office) w

theorem reachable_consulted (drift : Network → Network → Prop) :
    client.Reachable drift consulted :=
  .perform (.perform (.perform (reachable_started drift {}) (.selectForUrl branch))
    (.selectForReferral ⟨["ldap://Branch.Example.com:389/DC=Example"]⟩)) (.selectForUrl office)

theorem registry_growth_consulted :
    client.Reachable (fun _ _ => False) consulted ∧
      consulted.lookups.map Prod.snd = [1, 1, 0] ∧ client.Accounted consulted := by
  have hw := reachable_consulted fun _ _ => False
  exact ⟨hw, by decide +kernel, Manager.registry_growth hw⟩

end Scripted

end DirectoryClient
