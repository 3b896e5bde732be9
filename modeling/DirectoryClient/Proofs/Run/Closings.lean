import DirectoryClient.Proofs.Run.Fetching
import DirectoryClient.Proofs.Run.Handout

/-!
# How often sessions are closed

* `World.closings`          how often a session was closed;
* `Manager.Tidy`            what was closed is known, and is not connected;
* `Manager.Spares`          no session is closed but those that are opened on the way, once each
                            (`spares_of_fetches`);
* `Connecting.unclosed`     what is handed out was not closed yet;
* `Registry.sessions`       the sessions that are stored, in the order of the servers;
* `closings_close`          closing everything closes each of them once, whether or not it was closed
                            before.
-/

namespace DirectoryClient

open Relation

/-! ## Counting -/

namespace World

variable {N : Type} {w w' : World N}

/-- how often a session was closed -/
def closings (w : World N) (s : SessionId) : Nat := (w.log.filterMap Event.closed?).count s

theorem closings_start (net : N) (registry : Registry) (chance : Nat → Nat) (s : SessionId) :
    ({ net, registry, chance } : World N).closings s = 0 := rfl

theorem closings_of_log {new : List Event} (hlog : w'.log = new ++ w.log) (s : SessionId) :
    w'.closings s = (new.filterMap Event.closed?).count s + w.closings s := by
  rw [closings, hlog, List.filterMap_append, List.count_append]
  rfl

theorem closings_of_quiet (new : List Event) (hlog : w'.log = new ++ w.log)
    (hnew : new.filterMap Event.closed? = []) (s : SessionId) :
    w'.closings s = w.closings s := by
  rw [closings_of_log hlog, hnew, List.count_nil, Nat.zero_add]

end World

/-! ## What is stored -/

/-- the sessions that are stored, in the order of the servers -/
def Registry.sessions (r : Registry) : List SessionId := r.servers.filterMap Server.session

theorem Registry.servers_eq (r : Registry) : r.servers = (List.range r.size).map r.server := by
  refine List.ext_getElem ?_ fun i hi hi' => ?_
  · rw [List.length_map, List.length_range, size]
  · rw [List.getElem_map, List.getElem_range, server, List.getElem?_eq_getElem hi,
      Option.getD_some]

theorem Registry.sessions_eq (r : Registry) :
    r.sessions = (List.range r.size).filterMap fun i => (r.server i).session := by
  rw [sessions, r.servers_eq, List.filterMap_map]
  rfl

namespace Manager

variable {N : Type} {m : Manager N} {known : N → SessionId → Prop} {w w' u : World N}

/-- No session is stored with two servers. -/
theorem SessionInv.nodup_sessions (h : m.SessionInv known w) : w.registry.sessions.Nodup := by
  rw [Registry.sessions_eq]
  refine List.pairwise_filterMap.mpr (List.pairwise_iff_getElem.mpr fun i j hi hj hlt => ?_)
  intro s hs s' hs'
  rw [List.length_range] at hi hj
  rw [List.getElem_range] at hs hs'
  rintro rfl
  have he := h.single i j s (h.bound i hi s hs).1 (h.bound j hj s hs').1
  exact absurd he (Nat.ne_of_lt hlt)

/-! ## What was closed stays closed -/

variable (m) in
/-- What was closed is known, and is not connected. -/
def Tidy (known : N → SessionId → Prop) (w : World N) : Prop :=
  ∀ s, 0 < w.closings s → known w.net s ∧ m.transport.isConnected s w.net = false

variable (m) in
/-- No session comes back, and none is closed but those that are opened on the way, once each. -/
structure Spares (known : N → SessionId → Prop) (w w' : World N) : Prop where
  wanes : m.transport.Wanes known w.net w'.net
  closings : ∀ s, w'.closings s = w.closings s ∨
    ¬ known w.net s ∧ known w'.net s ∧ m.transport.isConnected s w'.net = false ∧
      w'.closings s = w.closings s + 1

namespace Tidy

theorem unclosed_of_unknown (h : m.Tidy known w) {s : SessionId} (hs : ¬ known w.net s) :
    w.closings s = 0 := by
  by_contra hne
  exact hs (h s (Nat.pos_of_ne_zero hne)).1

theorem unclosed_of_connected (h : m.Tidy known w) {s : SessionId}
    (hs : m.transport.isConnected s w.net = true) : w.closings s = 0 := by
  by_contra hne
  rw [(h s (Nat.pos_of_ne_zero hne)).2] at hs
  cases hs

theorem spares (h : m.Tidy known w) (hs : m.Spares known w w') : m.Tidy known w' := by
  intro s hpos
  rcases hs.closings s with he | ⟨-, hk, hd, -⟩
  · obtain ⟨hk, hd⟩ := h s (he ▸ hpos)
    exact ⟨hs.wanes.stays s hk, hs.wanes.lost hk hd⟩
  · exact ⟨hk, hd⟩

end Tidy

namespace Spares

theorem quiet (hnet : m.transport.Wanes known w.net w'.net) (new : List Event)
    (hlog : w'.log = new ++ w.log) (hnew : new.filterMap Event.closed? = []) :
    m.Spares known w w' :=
  ⟨hnet, fun s => .inl (World.closings_of_quiet new hlog hnew s)⟩

theorem refl (w : World N) : m.Spares known w w := .quiet (.refl _) [] rfl rfl

theorem trans (h : m.Spares known w u) (h' : m.Spares known u w') : m.Spares known w w' := by
  refine ⟨h.wanes.trans h'.wanes, fun s => ?_⟩
  rcases h.closings s with he | ⟨hn, hk, hd, he⟩
  · rcases h'.closings s with he' | ⟨hn, hk, hd, he'⟩
    · exact .inl (he'.trans he)
    · exact .inr ⟨fun hs => hn (h.wanes.stays s hs), hk, hd, by rw [he', he]⟩
  · -- what is known by now is not closed again
    have he' := (h'.closings s).resolve_right fun hn' => hn'.1 hk
    exact .inr ⟨hn, h'.wanes.stays s hk, h'.wanes.lost hk hd, by rw [he', he]⟩

theorem eq_of_known (h : m.Spares known w w') {s : SessionId} (hk : known w.net s) :
    w'.closings s = w.closings s := (h.closings s).resolve_right fun hn => hn.1 hk

end Spares

/-! ## Closing a session -/

theorem closings_hangUp (s t : SessionId) (w : World N) :
    (m.transport.hangUp s w).2.closings t = w.closings t + if s = t then 1 else 0 := by
  have hlog : (m.transport.hangUp s w).2.log = [.close s (m.transport.hangUp s w).1] ++ w.log := rfl
  have hclosed : [Event.close s (m.transport.hangUp s w).1].filterMap Event.closed? = [s] := rfl
  rw [World.closings_of_log hlog, hclosed, List.count_singleton, Nat.add_comm]
  simp only [beq_iff_eq]

theorem closings_hangUp_self (s : SessionId) (w : World N) :
    (m.transport.hangUp s w).2.closings s = w.closings s + 1 := by
  rw [closings_hangUp, if_pos rfl]

theorem closings_hangUp_of_ne {s t : SessionId} (h : s ≠ t) (w : World N) :
    (m.transport.hangUp s w).2.closings t = w.closings t := by
  rw [closings_hangUp, if_neg h, Nat.add_zero]

theorem Tidy.hangUp (hl : m.transport.Lawful known) (h : m.Tidy known w) {s : SessionId}
    (hs : known w.net s) : m.Tidy known (m.transport.hangUp s w).2 := by
  intro t hpos
  have hnet : m.transport.Wanes known w.net (m.transport.hangUp s w).2.net := hl.close s w.net
  by_cases hst : s = t
  · subst hst
    exact ⟨hnet.stays s hs, hl.closed s w.net⟩
  · rw [closings_hangUp_of_ne hst] at hpos
    obtain ⟨hk, hd⟩ := h t hpos
    exact ⟨hnet.stays t hk, hnet.lost hk hd⟩

/-! ## Connecting -/

theorem closings_loggedIn (i : Nat) (s t : SessionId) (w : World N) :
    (m.loggedIn i s w).closings t = w.closings t :=
  World.closings_of_quiet [_, _] (m.log_loggedIn i s w) rfl t

theorem Connecting.spares (hl : m.transport.Lawful known) {i : Nat}
    {answer : Except ClientError SessionId} (h : m.Connecting i w answer w') :
    m.Spares known w w' := by
  have hnet := h.wanes hl
  cases h with
  | kept s hs hc => exact .refl w
  | refused e hst hd => exact .quiet hnet [_] (m.log_dialled i w) rfl
  | bound s hst hd hb => exact .quiet hnet [_, _] (m.log_loggedIn i s w) rfl
  | unbound s e hst hd hb =>
    refine ⟨hnet, fun t => ?_⟩
    by_cases hst : s = t
    · subst hst
      obtain ⟨hn, hk⟩ := new_of_dialAnswer hl hd
      refine .inr ⟨hn, (hl.close s _).stays s hk, hl.closed s _, ?_⟩
      rw [closings_hangUp_self, closings_loggedIn]
    · exact .inl (by rw [closings_hangUp_of_ne hst, closings_loggedIn])

/-- What is handed out was not closed yet. -/
theorem Connecting.unclosed (hl : m.transport.Lawful known) (h : m.Tidy known w) {i : Nat}
    {s : SessionId} (hc : m.Connecting i w (.ok s) w') : w'.closings s = 0 := by
  cases hc with
  | kept _ hs hc => exact h.unclosed_of_connected hc
  | bound _ hst hd hb =>
    have he : (store i (some s) (m.loggedIn i s w)).2.closings s = w.closings s :=
      closings_loggedIn i s s w
    rw [he, h.unclosed_of_unknown (new_of_dialAnswer hl hd).1]

theorem Fetch.spares (hl : m.transport.Lawful known) (h : m.Fetch w w') :
    m.Spares known w w' := by
  cases h with
  | draw => exact .quiet (.refl _) [] rfl rfl
  | choose d => exact .quiet (.refl _) [_] rfl rfl
  | locate url => exact .quiet (.refl _) [_] rfl rfl
  | attach i _ hi => exact (m.connectServer_spec i w).spares hl

theorem spares_of_fetches (hl : m.transport.Lawful known) (h : ReflTransGen m.Fetch w w') :
    m.Spares known w w' := by
  induction h with
  | refl => exact .refl w
  | tail _ hs ih => exact ih.trans (hs.spares hl)

/-! ## Closing everything -/

/-- Closing the server at a position closes its session, if it has one. -/
theorem closings_closeServer (i : Nat) (s : SessionId) (w : World N) :
    (m.closeServer i w).2.closings s =
      w.closings s + if (w.registry.server i).session = some s then 1 else 0 := by
  rcases m.closeServer_cases i w with ⟨hs, hw⟩ | ⟨t, ht, hw⟩ <;> rw [hw]
  · rw [hs, if_neg nofun, Nat.add_zero]
  · rw [closings_hangUp, ht]
    simp only [Option.some.injEq]
    rfl

theorem server_closeServer_of_ne {i j : Nat} (hj : j < w.registry.size) (hne : j ≠ i) :
    (m.closeServer i w).2.registry.server j = w.registry.server j := by
  rcases m.closeServer_cases i w with ⟨-, hw⟩ | ⟨s, -, hw⟩ <;> rw [hw]
  exact server_cleared_of_ne hj hne

theorem closings_closeServers {l : List Nat} (hnd : l.Nodup) (last : Option ClientError)
    (hl : ∀ i ∈ l, i < w.registry.size) (s : SessionId) :
    (m.closeServers last l w).2.closings s =
      w.closings s + (l.filterMap fun i => (w.registry.server i).session).count s := by
  induction l generalizing last w with
  | nil => rfl
  | cons i l ih =>
    obtain ⟨hi, hnd⟩ := List.nodup_cons.mp hnd
    have hl' : ∀ j ∈ l, j < (m.closeServer i w).2.registry.size := fun j hj => by
      rw [size_closeServer]
      exact hl j (List.mem_cons_of_mem _ hj)
    -- the servers behind the first one keep what they have
    have hrest : (l.filterMap fun j => ((m.closeServer i w).2.registry.server j).session) =
        l.filterMap fun j => (w.registry.server j).session := by
      refine List.filterMap_congr fun j hj => ?_
      rw [server_closeServer_of_ne (hl j (List.mem_cons_of_mem _ hj))]
      rintro rfl
      exact hi hj
    have h := ih hnd ((m.closeServer i w).1.or last) hl'
    rw [hrest, closings_closeServer] at h
    refine Eq.trans h ?_
    cases hs : (w.registry.server i).session with
    | none => simp only [List.filterMap_cons, hs, reduceCtorEq, if_false, Nat.add_zero]
    | some t =>
      simp only [List.filterMap_cons, hs, List.count_cons, beq_iff_eq, Option.some.injEq]
      omega

theorem world_close (w : World N) :
    (m.close w).2 = (m.closeServers none (List.range w.registry.size) w).2 := by
  simp only [close, registry, Act.bind_apply]
  cases (m.closeServers none (List.range w.registry.size) w).1 <;> rfl

/-- **Closing everything closes each session that is stored once, even if it was closed before.** -/
theorem closings_close (h : m.SessionInv known w) (s : SessionId) :
    (m.close w).2.closings s = w.closings s + if s ∈ w.registry.sessions then 1 else 0 := by
  rw [world_close, closings_closeServers List.nodup_range none fun i hi => List.mem_range.mp hi,
    ← Registry.sessions_eq, h.nodup_sessions.count]

section
variable (hl : m.transport.Lawful known)
include hl

theorem Tidy.closeServer (h : m.Tidy known w) (hw : m.SessionInv known w) {i : Nat}
    (hi : i < w.registry.size) : m.Tidy known (m.closeServer i w).2 := by
  rcases m.closeServer_cases i w with ⟨-, he⟩ | ⟨s, hs, he⟩ <;> rw [he]
  · exact h
  · have hcleared : m.Tidy known (cleared i w) := h
    exact hcleared.hangUp hl (hw.known_of_stored hi hs)

theorem Tidy.closeServers {l : List Nat} (h : m.Tidy known w) (hw : m.SessionInv known w)
    (last : Option ClientError) (hi : ∀ i ∈ l, i < w.registry.size) :
    m.Tidy known (m.closeServers last l w).2 := by
  induction l generalizing last w with
  | nil => exact h
  | cons i l ih =>
    refine ih (h.closeServer hl hw (hi i List.mem_cons_self)) (hw.detach hl) _ fun j hj => ?_
    rw [size_closeServer]
    exact hi j (List.mem_cons_of_mem _ hj)

theorem Tidy.close (h : m.Tidy known w) (hw : m.SessionInv known w) :
    m.Tidy known (m.close w).2 := by
  rw [world_close]
  exact h.closeServers hl hw none fun i hi => List.mem_range.mp hi

end

end Manager

end DirectoryClient
