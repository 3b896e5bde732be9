import DirectoryClient.Registry.Routing

/-!
# What changes a registry

* `ofConfig_cases`          the servers of a configuration come from a configuration without flaws,
                            and have no session;
* `enrol_cases`             a URL means the first server that covers it, or a new one;
* `server_setSession_self`, `server_setSession_of_ne`   one server gets a session;
* `server_push_of_lt`, `server_push_size`   one more server.
-/

namespace DirectoryClient

namespace Registry

variable {r : Registry} {schema : Schema} {url : LdapUrl}

theorem size_push (r : Registry) (x : ServerRecord) : (r.push x).size = r.size + 1 := by
  rw [size, servers_push, List.length_append, List.length_singleton, size]

theorem server_push_of_lt {i : Nat} (x : ServerRecord) (hi : i < r.size) :
    (r.push x).server i = r.server i := by
  have hi' : (r.push x).servers[i]? = r.servers[i]? := List.getElem?_append_left hi
  rw [server, server, hi']
  rfl

theorem server_push_size (r : Registry) (x : ServerRecord) :
    (r.push x).server r.size = { record := x } := by
  have hx : (r.push x).servers[r.size]? = some { record := x } := List.getElem?_concat_length
  rw [server, hx, Option.getD_some]

theorem size_eq_length_records (r : Registry) : r.size = r.records.length := by
  rw [size, records, List.length_map]

theorem find?_lt_size {i : Nat} (h : r.find? schema url = some i) : i < r.size := by
  obtain ⟨hi, -⟩ := List.findIdx?_eq_some_iff_getElem.mp h
  rwa [size_eq_length_records]

/-- The registry stays as it is, or a server that a referral names joins it at the end. -/
theorem enrol_cases (r : Registry) (schema : Schema) (url : LdapUrl) :
    (∃ i < r.size, r.find? schema url = some i ∧ r.enrol schema url = (i, r)) ∨
    (r.find? schema url = none ∧
      r.enrol schema url = (r.size, r.push (.ofReferral schema r.first.record url))) := by
  cases h : r.find? schema url with
  | none => exact .inr ⟨rfl, by rw [enrol, h]⟩
  | some i => exact .inl ⟨i, find?_lt_size h, rfl, by rw [enrol, h]⟩

theorem enrol_lt_size (r : Registry) (schema : Schema) (url : LdapUrl) :
    (r.enrol schema url).1 < (r.enrol schema url).2.size := by
  rcases r.enrol_cases schema url with ⟨i, hi, -, he⟩ | ⟨-, he⟩ <;> rw [he]
  · exact hi
  · rw [size_push]
    exact Nat.lt_succ_self _

theorem server_mem (r : Registry) (i : Nat) : r.server i ∈ r.servers := by
  unfold server
  cases h : r.servers[i]? with
  | none => exact List.mem_cons_self
  | some x => exact List.mem_of_getElem? h

/-! ## Configured servers -/

theorem ofConfig_cases {schema : Schema} {c : Config} {r : Registry}
    (h : ofConfig schema c = .ok r) : c.flaw = none ∧ ∃ first rest,
      ServerRecord.ofConfig schema c = .ok first ∧
      c.servers.mapM (ServerRecord.ofServer schema c) = .ok rest ∧
      r = ⟨{ record := first }, rest.map ({ record := · })⟩ := by
  unfold ofConfig Config.validate at h
  cases hf : c.flaw with
  | some f => rw [hf] at h; cases h
  | none =>
    rw [hf] at h
    cases h1 : ServerRecord.ofConfig schema c with
    | error e => rw [h1] at h; cases h
    | ok first =>
      rw [h1] at h
      cases h2 : c.servers.mapM (ServerRecord.ofServer schema c) with
      | error e => rw [h2] at h; cases h
      | ok rest =>
        rw [h2] at h
        exact ⟨rfl, first, rest, rfl, rfl, (Except.ok.inj h).symm⟩

theorem session_ofConfig {c : Config} (h : ofConfig schema c = .ok r) (i : Nat) :
    (r.server i).session = none := by
  obtain ⟨-, first, rest, -, -, rfl⟩ := ofConfig_cases h
  rcases List.mem_cons.mp (server_mem _ i) with he | hm
  · rw [he]
  · obtain ⟨x, -, hx⟩ := List.mem_map.mp hm
    rw [← hx]

/-! ## Sessions -/

theorem getElem?_servers_setSession (r : Registry) (i j : Nat) (s : Option SessionId) :
    (r.setSession i s).servers[j]? =
      (r.servers[j]?).map fun x => if i = j then { x with session := s } else x := by
  rw [setSession, servers_modify, List.getElem?_modify]
  by_cases h : i = j <;> simp [h]

theorem server_setSession_of_ne {i j : Nat} (s : Option SessionId) (hj : j < r.size)
    (hne : i ≠ j) : (r.setSession i s).server j = r.server j := by
  have hj' : r.servers[j]? = some r.servers[j] := List.getElem?_eq_getElem hj
  simp [server, getElem?_servers_setSession, hj', hne]

theorem server_setSession_self {i : Nat} (s : Option SessionId) (hi : i < r.size) :
    (r.setSession i s).server i = { record := (r.server i).record, session := s } := by
  have hi' : r.servers[i]? = some r.servers[i] := List.getElem?_eq_getElem hi
  simp [server, getElem?_servers_setSession, hi']

theorem record_setSession (r : Registry) (i j : Nat) (s : Option SessionId) :
    ((r.setSession i s).server j).record = (r.server j).record := by
  have hf : (r.setSession i s).first.record = r.first.record := by cases i <;> rfl
  rw [server, server, getElem?_servers_setSession]
  cases r.servers[j]? with
  | none => exact hf
  | some x => by_cases h : i = j <;> simp [h]

end Registry

end DirectoryClient
