import DirectoryClient.Proofs.Run.Closings

/-!
# Closing every server

* `Closing`                a session that is closed, with the record of its server and the answer;
* `Transport.ClosesEach`   a network that is asked to close sessions one after the other;
* `Manager.Sweep`          the servers at some positions are closed, those without a session are
                           passed over (`closeServers_spec`);
* `Manager.lastError`      the error that the last failure makes (`lastError_of_last`);
* `close_sweeps`           closing a client closes what is stored with its servers, in their order,
                           and tells of the last failure.
-/

namespace DirectoryClient

/-- a session that is closed -/
structure Closing where
  record : ServerRecord
  session : SessionId
  answer : Except Failure Unit

namespace Closing

def event (c : Closing) : Event := .close c.session c.answer

/-- the server and the session, whatever the answer is -/
def target (c : Closing) : ServerRecord × SessionId := (c.record, c.session)

end Closing

/-- Each session of a list is closed, in a network that the closings before have changed. -/
inductive Transport.ClosesEach {N : Type} (t : Transport N) : N → List Closing → N → Prop
  | nil (net : N) : t.ClosesEach net [] net
  | cons (record : ServerRecord) (session : SessionId) {net net' : N} {l : List Closing}
      (h : t.ClosesEach (t.close session net).2 l net') :
      t.ClosesEach net (⟨record, session, (t.close session net).1⟩ :: l) net'

/-- the session that is stored with a server -/
def Server.stored (x : Server) : Option (ServerRecord × SessionId) :=
  x.session.map fun s => (x.record, s)

/-- the servers with sessions, in their order -/
def Registry.stored (r : Registry) : List (ServerRecord × SessionId) :=
  r.servers.filterMap Server.stored

namespace Manager

variable {N : Type} {m : Manager N} {w w' : World N}

/-! ## One after the other -/

variable (m) in
/-- what happens when the session of a server is closed -/
def closingOf (i : Nat) (s : SessionId) (w : World N) : Closing :=
  ⟨(w.registry.server i).record, s, (m.transport.close s w.net).1⟩

variable (m) in
/-- the world in which the session of a server is closed -/
def closed (i : Nat) (s : SessionId) (w : World N) : World N :=
  (m.transport.hangUp s (cleared i w)).2

variable (m) in
/-- The servers at some positions are closed. -/
inductive Sweep : World N → List Nat → List Closing → World N → Prop
  | nil (w : World N) : Sweep w [] [] w
  | skip {w w' : World N} {i : Nat} (hs : (w.registry.server i).session = none) {l : List Nat}
      {cs : List Closing} (h : Sweep w l cs w') : Sweep w (i :: l) cs w'
  | close {w w' : World N} {i : Nat} {s : SessionId}
      (hs : (w.registry.server i).session = some s) {l : List Nat} {cs : List Closing}
      (h : Sweep (m.closed i s w) l cs w') : Sweep w (i :: l) (m.closingOf i s w :: cs) w'

variable (m) in
/-- the error that the last failure makes, none if there is no failure -/
def lastError : List Closing → Option ClientError
  | [] => none
  | c :: l => (lastError l).or (m.closeError c.record c.answer)

theorem closeServers_spec (last : Option ClientError) (l : List Nat) (w : World N) :
    ∃ cs, m.Sweep w l cs (m.closeServers last l w).2 ∧
      (m.closeServers last l w).1 = (m.lastError cs).or last := by
  induction l generalizing last w with
  | nil => exact ⟨[], .nil w, rfl⟩
  | cons i l ih =>
    show ∃ cs, m.Sweep w (i :: l) cs
        (m.closeServers ((m.closeServer i w).1.or last) l (m.closeServer i w).2).2 ∧
      (m.closeServers ((m.closeServer i w).1.or last) l (m.closeServer i w).2).1 = _
    cases hs : (w.registry.server i).session with
    | none =>
      rw [m.closeServer_of_none hs]
      obtain ⟨cs, hcs, hlast⟩ := ih last w
      exact ⟨cs, .skip hs hcs, hlast⟩
    | some s =>
      rw [m.closeServer_of_some hs]
      obtain ⟨cs, hcs, hlast⟩ := ih _ (m.closed i s w)
      refine ⟨_ :: cs, .close hs hcs, hlast.trans ?_⟩
      exact Option.or_assoc.symm

namespace Sweep

variable {l : List Nat} {cs : List Closing}

theorem closesEach (h : m.Sweep w l cs w') : m.transport.ClosesEach w.net cs w'.net := by
  induction h with
  | nil w => exact .nil w.net
  | skip _ _ ih => exact ih
  | close _ _ ih => exact .cons _ _ ih

theorem events (h : m.Sweep w l cs w') : w'.events = w.events ++ cs.map Closing.event := by
  induction h with
  | nil w => exact (List.append_nil _).symm
  | skip _ _ ih => exact ih
  | @close w w' i s hs l cs h ih =>
    have hone : (m.closed i s w).events = w.events ++ [(m.closingOf i s w).event] :=
      List.reverse_cons
    rw [ih, hone, List.append_assoc]
    rfl

/-- Servers that are not closed stay what they are. -/
theorem server_of_not_mem (h : m.Sweep w l cs w') {j : Nat} (hj : j < w.registry.size)
    (hl : j ∉ l) : w'.registry.server j = w.registry.server j := by
  induction h with
  | nil w => rfl
  | skip _ _ ih => exact ih hj (List.not_mem_of_not_mem_cons hl)
  | @close w w' i s hs l cs h ih =>
    obtain ⟨hne, hrest⟩ := not_or.mp (List.mem_cons.not.mp hl)
    have hsize : (m.closed i s w).registry.size = w.registry.size := size_cleared i w
    rw [ih (hsize ▸ hj) hrest]
    exact server_cleared_of_ne hj hne

theorem size (h : m.Sweep w l cs w') : w'.registry.size = w.registry.size := by
  induction h with
  | nil w => rfl
  | skip _ _ ih => exact ih
  | @close w w' i s hs l cs h ih => exact ih.trans (size_cleared i w)

/-- A server that is closed keeps its record and nothing else. -/
theorem server_of_mem (h : m.Sweep w l cs w') (hnd : l.Nodup)
    (hl : ∀ i ∈ l, i < w.registry.size) {j : Nat} (hj : j ∈ l) :
    w'.registry.server j = { record := (w.registry.server j).record } := by
  induction h with
  | nil w => cases hj
  | @skip w w' i hs l cs h ih =>
    obtain ⟨hi, hnd⟩ := List.nodup_cons.mp hnd
    obtain ⟨hlt, hl⟩ := List.forall_mem_cons.mp hl
    rcases List.mem_cons.mp hj with rfl | hj
    · rw [h.server_of_not_mem hlt hi]
      cases hserver : w.registry.server j
      rw [hserver] at hs
      exact congrArg _ hs
    · exact ih hnd hl hj
  | @close w w' i s hs l cs h ih =>
    obtain ⟨hi, hnd⟩ := List.nodup_cons.mp hnd
    obtain ⟨hlt, hl⟩ := List.forall_mem_cons.mp hl
    have hsize : (m.closed i s w).registry.size = w.registry.size := size_cleared i w
    rcases List.mem_cons.mp hj with rfl | hj
    · rw [h.server_of_not_mem (hsize ▸ hlt) hi]
      exact Registry.server_setSession_self none hlt
    · rw [ih hnd (hsize ▸ hl) hj]
      have hrecord : ((m.closed i s w).registry.server j).record = _ := record_cleared i j w
      rw [hrecord]

/-- What is closed is what is stored with the servers. -/
theorem map_target (h : m.Sweep w l cs w') (hnd : l.Nodup)
    (hl : ∀ i ∈ l, i < w.registry.size) :
    cs.map Closing.target = l.filterMap fun i => (w.registry.server i).stored := by
  induction h with
  | nil w => rfl
  | @skip w w' i hs l cs h ih =>
    have hnone : (w.registry.server i).stored = none := by
      unfold Server.stored
      rw [hs]
      rfl
    rw [ih (List.nodup_cons.mp hnd).2 (List.forall_mem_cons.mp hl).2]
    simp only [List.filterMap_cons, hnone]
  | @close w w' i s hs l cs h ih =>
    obtain ⟨hi, hnd⟩ := List.nodup_cons.mp hnd
    obtain ⟨-, hl⟩ := List.forall_mem_cons.mp hl
    have hsome : (w.registry.server i).stored = some ((w.registry.server i).record, s) := by
      unfold Server.stored
      rw [hs]
      rfl
    have hsize : (m.closed i s w).registry.size = w.registry.size := size_cleared i w
    -- closing one server leaves what is stored with those behind it
    have hrest : (l.filterMap fun j => ((m.closed i s w).registry.server j).stored) =
        l.filterMap fun j => (w.registry.server j).stored := by
      apply List.filterMap_congr
      intro j hj
      have hne : j ≠ i := fun hji => hi (hji ▸ hj)
      have hserver : (m.closed i s w).registry.server j = w.registry.server j :=
        server_cleared_of_ne (hl j hj) hne
      rw [hserver]
    rw [List.map_cons, ih hnd (hsize ▸ hl), hrest]
    simp only [List.filterMap_cons, hsome]
    rfl

end Sweep

/-! ## The last failure -/

theorem lastError_eq_none_iff {cs : List Closing} :
    m.lastError cs = none ↔ ∀ c ∈ cs, c.answer = .ok () := by
  induction cs with
  | nil => exact iff_of_true rfl (List.forall_mem_nil _)
  | cons c cs ih =>
    have hone : m.closeError c.record c.answer = none ↔ c.answer = .ok () := by
      cases c.answer <;> simp [closeError]
    unfold lastError
    rw [Option.or_eq_none_iff, ih, hone, List.forall_mem_cons, and_comm]

theorem lastError_of_last {front back : List Closing} {c : Closing} {f : Failure}
    (hc : c.answer = .error f) (hback : ∀ b ∈ back, b.answer = .ok ()) :
    m.lastError (front ++ c :: back) =
      some (m.classifier.failureError f c.record.host c.record.port) := by
  induction front with
  | nil =>
    show (m.lastError back).or (m.closeError c.record c.answer) = _
    rw [lastError_eq_none_iff.mpr hback, Option.none_or, hc]
    rfl
  | cons b front ih =>
    show (m.lastError (front ++ c :: back)).or _ = _
    rw [ih, Option.some_or]

/-! ## All servers -/

theorem answer_close (w : World N) : (m.close w).1 =
    match (m.closeServers none (List.range w.registry.size) w).1 with
    | none => .ok ()
    | some e => .error e := by
  simp only [close, registry, Act.bind_apply]
  cases (m.closeServers none (List.range w.registry.size) w).1 <;> rfl

theorem closeServers_of_empty {l : List Nat}
    (h : ∀ i ∈ l, (w.registry.server i).session = none) (last : Option ClientError) :
    m.closeServers last l w = (last, w) := by
  induction l with
  | nil => rfl
  | cons i l ih =>
    obtain ⟨hi, hl⟩ := List.forall_mem_cons.mp h
    show m.closeServers ((m.closeServer i w).1.or last) l (m.closeServer i w).2 = _
    rw [m.closeServer_of_none hi]
    exact ih hl

/-- A client without sessions has nothing to close. -/
theorem close_of_empty (h : ∀ i < w.registry.size, (w.registry.server i).session = none) :
    m.close w = (.ok (), w) := by
  have hnone := closeServers_of_empty (m := m) (fun i hi => h i (List.mem_range.mp hi)) none
  apply Prod.ext
  · rw [answer_close, hnone]
  · rw [world_close, hnone]

/-- **Closing a client closes each session that is stored**, in the order of the servers and
whatever the answers are.  No server has a session afterwards, and nothing else about the servers has
changed.  The last failure is told of, and closing once more does nothing. -/
theorem close_sweeps (m : Manager N) (w : World N) : ∃ cs : List Closing,
    cs.map Closing.target = w.registry.stored ∧
    m.transport.ClosesEach w.net cs (m.close w).2.net ∧
    (m.close w).2.events = w.events ++ cs.map Closing.event ∧
    (m.close w).2.registry.servers = w.registry.servers.map (fun x => { record := x.record }) ∧
    ((m.close w).1 = .ok () ↔ ∀ c ∈ cs, c.answer = .ok ()) ∧
    (∀ front c back f, cs = front ++ c :: back → c.answer = .error f →
      (∀ b ∈ back, b.answer = .ok ()) →
      (m.close w).1 = .error (m.classifier.failureError f c.record.host c.record.port)) ∧
    m.close (m.close w).2 = (.ok (), (m.close w).2) := by
  have hanswer := m.answer_close w
  have hworld := m.world_close w
  obtain ⟨cs, hsweep, hlast⟩ := m.closeServers_spec none (List.range w.registry.size) w
  rw [← hworld] at hsweep
  rw [hlast, Option.or_none] at hanswer
  have hbound : ∀ i ∈ List.range w.registry.size, i < w.registry.size :=
    fun i hi => List.mem_range.mp hi
  have hserver : ∀ i < w.registry.size,
      (m.close w).2.registry.server i = { record := (w.registry.server i).record } :=
    fun i hi => hsweep.server_of_mem List.nodup_range hbound (List.mem_range.mpr hi)
  refine ⟨cs, ?_, hsweep.closesEach, hsweep.events, ?_, ?_, ?_, ?_⟩
  · unfold Registry.stored
    rw [hsweep.map_target List.nodup_range hbound, w.registry.servers_eq, List.filterMap_map]
    rfl
  · rw [Registry.servers_eq, hsweep.size, w.registry.servers_eq, List.map_map]
    apply List.map_congr_left
    intro i hi
    exact hserver i (List.mem_range.mp hi)
  · rw [hanswer, ← lastError_eq_none_iff (m := m)]
    cases m.lastError cs <;> simp
  · rintro front c back f rfl hc hback
    rw [hanswer, lastError_of_last hc hback]
  · apply close_of_empty
    intro i hi
    rw [hsweep.size] at hi
    rw [hserver i hi]

end Manager

end DirectoryClient
