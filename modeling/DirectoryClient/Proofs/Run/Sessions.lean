import DirectoryClient.Proofs.Run.Reachable
import DirectoryClient.Proofs.Run.Sessions.Invariant
import DirectoryClient.Proofs.Scripted.Lawful

/-!
# Sessions in runs

* `SessionInv.work`        every piece of work keeps the invariant of the sessions;
* `Reachable.sessionInv`   it holds in every reachable world;
* `sessions_kept`          the sessions of every reachable world are kept.
-/

namespace DirectoryClient

namespace Manager

variable {N : Type} {m : Manager N} {known : N → SessionId → Prop} {w w' : World N}

theorem SessionInv.attach (hl : m.transport.Lawful known) (h : m.SessionInv known w) {i : Nat}
    (hi : i < w.registry.size) {answer : Except ClientError SessionId}
    (hc : m.Connecting i w answer w') : m.SessionInv known w' := by
  cases hc with
  | kept s hs hc => exact h
  | refused e hst hd =>
    refine h.clear i rfl (fun s hs => ?_) [_] rfl ?_ (hl.connect _ _)
    · have hk : known w.net s := (h.opened i s (h.bound i hi s hs).1).2
      exact (hl.connect _ _).lost hk (hst s hs)
    · intro e he
      obtain rfl := List.mem_singleton.mp he
      show Event.IsQuiet (.connect _ _ (m.dialAnswer i w))
      rcases ha : m.dialAnswer i w with f | (_ | s)
      · trivial
      · trivial
      · exact absurd ha (hd s)
  | bound s hst hd hb =>
    exact (renewal_stored hi hst hd (bindError_eq_none_iff.mp hb)).sessionInv hl (.refl _) h
  | unbound s e hst hd hb => exact (renewal_hungUp hl hi hst hd).sessionInv hl (hl.close _ _) h

theorem SessionInv.detach (hl : m.transport.Lawful known) (h : m.SessionInv known w) {i : Nat} :
    m.SessionInv known (m.closeServer i w).2 := by
  rcases m.closeServer_cases i w with ⟨-, hw⟩ | ⟨s, hs, hw⟩ <;> rw [hw]
  · exact h
  · refine h.clear i rfl (fun s' hs' => ?_) [_] rfl (by simp [Event.IsQuiet]) (hl.close s _)
    obtain rfl := Option.some.inj (hs.symm.trans hs')
    exact hl.closed s _

/-- A server that joins the registry has no session. -/
theorem SessionInv.locate (h : m.SessionInv known w) (url : LdapUrl) :
    m.SessionInv known (m.selectForUrl url w).2 := by
  have hnet : m.transport.Wanes known w.net (m.selectForUrl url w).2.net := .refl _
  have hlog : (m.selectForUrl url w).2.log =
      [.located url (m.selectForUrl url w).1] ++ w.log := rfl
  have hq : ∀ e ∈ [Event.located url (m.selectForUrl url w).1], e.IsQuiet := by
    simp [Event.IsQuiet]
  have hreg := m.registry_selectForUrl url w
  rcases w.registry.enrol_cases m.schema url with ⟨i, -, -, he⟩ | ⟨-, he⟩ <;> rw [he] at hreg
  · exact h.quiet hreg _ hlog hq hnet
  · refine h.lose ?_ ?_ ?_ ?_ _ hlog hq hnet
    · rw [hreg, Registry.size_push]
      exact Nat.le_succ _
    · exact fun i hi => by rw [hreg, Registry.server_push_of_lt _ hi]
    · exact fun i hi => .inl (by rw [hreg, Registry.server_push_of_lt _ hi])
    · intro i hi hge
      rw [hreg, Registry.size_push] at hi
      obtain rfl : i = w.registry.size := Nat.le_antisymm (Nat.le_of_lt_succ hi) hge
      rw [hreg, Registry.server_push_size]

/-- A piece of work that leaves the registry alone, with one event at most. -/
theorem SessionInv.call (h : m.SessionInv known w) {α : Type} (act : N → α × N)
    (note : α → Event) (hq : ∀ a, (note a).IsQuiet)
    (hnet : m.transport.Wanes known w.net (act w.net).2) :
    m.SessionInv known (World.call act note w).2 :=
  h.quiet rfl [_] rfl (fun _ he => List.mem_singleton.mp he ▸ hq _) hnet

theorem SessionInv.record (h : m.SessionInv known w) {line : Event} (hq : line.IsQuiet) :
    m.SessionInv known (World.record line w).2 :=
  h.quiet rfl [line] rfl (fun _ he => List.mem_singleton.mp he ▸ hq) (.refl _)

theorem SessionInv.work (hl : m.transport.Lawful known) (hw : m.Work w w')
    (h : m.SessionInv known w) : m.SessionInv known w' := by
  cases hw with
  | move hm =>
    cases hm with
    | draw => exact h.quiet rfl [] rfl (List.forall_mem_nil _) (.refl _)
    | choose d => exact h.quiet rfl [_] rfl (by simp [Event.IsQuiet]) (.refl _)
    | locate url => exact h.locate url
    | attach i _ hi => exact h.attach hl hi (m.connectServer_spec i w)
    | detach i _ hi => exact h.detach hl
    | hangUp s => exact h.call _ _ (fun _ => trivial) (hl.close s _)
    | pause retry length => exact h.record trivial
  | start s request => exact h.call _ _ (fun _ => trivial) (hl.search s request _)
  | advance c => exact h.call _ _ (fun _ => trivial) (hl.next c _)
  | terminal c => exact h.call _ _ (fun _ => trivial) (hl.finish c _)
  | giveUp c => exact h.call _ _ (fun _ => trivial) (hl.abandon c _)
  | cancelNow c => exact h.call _ _ (fun _ => trivial) (hl.cancel c _)
  | handed more => exact h.record trivial
  | passed e => exact h.record trivial

theorem sessionInv_start {registry : Registry}
    (h : Registry.ofConfig m.schema m.config = .ok registry) (net : N) (chance : Nat → Nat) :
    m.SessionInv known { net, registry, chance } where
  live _ _ ho := by obtain ⟨settings, hm⟩ := ho; cases hm
  bound i _ s hs := by
    rw [Registry.session_ofConfig h i] at hs
    cases hs
  closed _ _ _ hb := by cases hb
  opened _ _ ho := by obtain ⟨settings, hm⟩ := ho; cases hm
  single _ _ _ ho := by obtain ⟨settings, hm⟩ := ho; cases hm
  logged _ _ _ hb := by cases hb

theorem Reachable.sessionInv (hl : m.transport.Lawful known)
    (hw : m.Reachable (m.transport.Wanes known) w) : m.SessionInv known w :=
  hw.invariant (fun _ net chance h => sessionInv_start h net chance)
    (fun _ _ hs h => h.work hl hs)
    (fun _ _ hd h => h.quiet rfl [] rfl (List.forall_mem_nil _) hd)

/-- **Every connected session is stored with the server that it was opened for, and with no other
one; what is stored was bound as that server demands.** -/
theorem sessions_kept (hl : m.transport.Lawful known)
    (hw : m.Reachable (m.transport.Wanes known) w) :
    m.SessionsKept w ∧ ∀ (v : World N) (i : Nat), i < v.registry.size → m.ConnectsAlone i v := by
  refine ⟨?_, fun v i hi => connectsAlone hl.closed hi⟩
  exact (hw.sessionInv hl).toSessionsKept

end Manager

namespace Scripted

/-- the client connected, its session lost, and connected again -/
def reconnected : World Network :=
  let w := client.perform .connect (started {})
  client.perform .connect { w with net := w.net.drop ⟨1⟩ }

theorem reachable_reconnected : client.Reachable (transport.Wanes Known) reconnected :=
  .perform (.drift (.perform (reachable_started _ {}) .connect) _ (wanes_drop _ _)) .connect

theorem sessions_kept_reconnected :
    client.transport.Lawful Known ∧ client.Reachable (transport.Wanes Known) reconnected ∧
      (reconnected.Opened 0 ⟨1⟩ ∧ reconnected.Opened 0 ⟨2⟩) ∧
      (reconnected.registry.server 0).session = some ⟨2⟩ ∧ client.SessionsKept reconnected ∧
      ∀ (v : World Network) (i : Nat), i < v.registry.size → client.ConnectsAlone i v := by
  have hkept := Manager.sessions_kept (m := client) lawful reachable_reconnected
  have hone : reconnected.Opened 0 ⟨1⟩ :=
    ⟨client.settings home.first.record, List.mem_of_getElem? (i := 3) rfl⟩
  have htwo : reconnected.Opened 0 ⟨2⟩ :=
    ⟨client.settings home.first.record, List.mem_of_getElem? (i := 1) rfl⟩
  exact ⟨lawful, reachable_reconnected, ⟨hone, htwo⟩, rfl, hkept.1, hkept.2⟩

end Scripted

end DirectoryClient
