import DirectoryClient.Proofs.Manager

/-!
# Sessions belong to servers

What a client may rely on if the transport hands out new sessions only and never brings one back.

* `Transport.Wanes`        a change of the network in which no session comes back;
* `Transport.Lawful`       every call is such a change, connecting gives a new session, and a closed
                           session is not connected;
* `Manager.SessionsKept`   every session that is connected is stored with its server and nowhere
                           else, what is stored was bound with that server's credentials, and what
                           was refused is closed;
* `Manager.ConnectsAlone`  what connecting one server does to the servers (`connectsAlone`).
-/

namespace DirectoryClient

namespace Transport

variable {N : Type} (t : Transport N)

/-- No session that is known comes back once it is not connected. -/
structure Wanes (known : N → SessionId → Prop) (n n' : N) : Prop where
  stays : ∀ s, known n s → known n' s
  fades : ∀ s, known n s → t.isConnected s n' = true → t.isConnected s n = true

/-- `known` are the sessions that were opened so far, in a network. -/
structure Lawful (known : N → SessionId → Prop) : Prop where
  /-- connecting gives a session that was not there before -/
  new : ∀ settings n s, (t.connect settings n).1 = .ok (some s) →
    ¬ known n s ∧ known (t.connect settings n).2 s
  /-- closing works even if it fails -/
  closed : ∀ s n, t.isConnected s (t.close s n).2 = false
  connect : ∀ settings n, t.Wanes known n (t.connect settings n).2
  bind : ∀ s request n, t.Wanes known n (t.bind s request n).2
  search : ∀ s request n, t.Wanes known n (t.search s request n).2
  close : ∀ s n, t.Wanes known n (t.close s n).2
  next : ∀ c n, t.Wanes known n (t.next c n).2
  finish : ∀ c n, t.Wanes known n (t.finish c n).2
  abandon : ∀ c n, t.Wanes known n (t.abandon c n).2
  cancel : ∀ c n, t.Wanes known n (t.cancel c n)

variable {t} {known : N → SessionId → Prop}

theorem Wanes.refl (n : N) : t.Wanes known n n := ⟨fun _ h => h, fun _ _ h => h⟩

theorem Wanes.trans {a b c : N} (hab : t.Wanes known a b) (hbc : t.Wanes known b c) :
    t.Wanes known a c where
  stays s h := hbc.stays s (hab.stays s h)
  fades s h hc := hab.fades s h (hbc.fades s (hab.stays s h) hc)

theorem Wanes.lost {a b : N} (h : t.Wanes known a b) {s : SessionId} (hk : known a s)
    (hc : t.isConnected s a = false) : t.isConnected s b = false := by
  rw [← Bool.not_eq_true] at hc ⊢
  exact fun hc' => hc (h.fades s hk hc')

end Transport

/-- whether a server agreed to a bind -/
def Accepted (answer : Except Failure LdapResult) : Prop :=
  ∃ r, answer = .ok r ∧ r.code = ResultCode.success

/-- an event by which no session is opened and none is bound -/
def Event.IsQuiet : Event → Prop
  | .connect _ _ (.ok (some _)) => False
  | .bind _ _ _ => False
  | _ => True

/-- whether a session was opened for the server at a position -/
def World.Opened {N : Type} (w : World N) (i : Nat) (s : SessionId) : Prop :=
  ∃ settings, Event.connect i settings (.ok (some s)) ∈ w.log

namespace Manager

variable {N : Type} (m : Manager N)

structure SessionsKept (w : World N) : Prop where
  /-- a connected session is stored with its server, and with no other one -/
  live : ∀ i s, w.Opened i s → m.transport.isConnected s w.net = true →
    i < w.registry.size ∧ (w.registry.server i).session = some s ∧
      ∀ j < w.registry.size, (w.registry.server j).session = some s → j = i
  /-- a stored session was opened for its server and bound with the server's credentials -/
  bound : ∀ i < w.registry.size, ∀ s, (w.registry.server i).session = some s → w.Opened i s ∧
    ∃ answer, Event.bind s (w.registry.server i).record.bindRequest answer ∈ w.log ∧
      Accepted answer
  /-- a session that was not bound is closed -/
  closed : ∀ s request answer, Event.bind s request answer ∈ w.log → ¬ Accepted answer →
    (∃ a, Event.close s a ∈ w.log) ∧ m.transport.isConnected s w.net = false

/-- what connecting the server at a position does -/
structure ConnectsAlone (i : Nat) (w : World N) : Prop where
  /-- after an error the server has no session -/
  empty : ∀ e, (m.connectServer i w).1 = .error e →
    ((m.connectServer i w).2.registry.server i).session = none
  /-- the other servers stay what they are -/
  others : ∀ j < w.registry.size, j ≠ i →
    (m.connectServer i w).2.registry.server j = w.registry.server j
  /-- a session that could not be bound is closed -/
  closed : ∀ new, (m.connectServer i w).2.log = new ++ w.log →
    ∀ s request answer, Event.bind s request answer ∈ new → ¬ Accepted answer →
      (∃ a, Event.close s a ∈ new) ∧
        m.transport.isConnected s (m.connectServer i w).2.net = false

variable {m}

theorem bindError_eq_none_iff {r : ServerRecord} {answer : Except Failure LdapResult} :
    m.bindError r answer = none ↔ Accepted answer := by
  cases answer with
  | error f => simp [bindError, Accepted]
  | ok result => simp [bindError, Accepted]

/-! ## Connecting one server -/

theorem server_cleared_self {i : Nat} {w : World N} (hi : i < w.registry.size) :
    ((cleared i w).registry.server i).session = none := by
  rw [cleared, store, Registry.server_setSession_self none hi]

theorem server_cleared_of_ne {i j : Nat} {w : World N} (hj : j < w.registry.size) (hne : j ≠ i) :
    (cleared i w).registry.server j = w.registry.server j :=
  Registry.server_setSession_of_ne none hj hne.symm

theorem size_cleared (i : Nat) (w : World N) : (cleared i w).registry.size = w.registry.size :=
  w.registry.size_setSession i none

namespace Connecting

variable {i : Nat} {w w' : World N} {answer : Except ClientError SessionId}

theorem empty {e : ClientError} (h : m.Connecting i w (.error e) w') (hi : i < w.registry.size) :
    (w'.registry.server i).session = none := by
  cases h with
  | refused e hst hd => exact server_cleared_self hi
  | unbound s e hst hd hb => exact server_cleared_self hi

theorem others (h : m.Connecting i w answer w') {j : Nat} (hj : j < w.registry.size)
    (hne : j ≠ i) : w'.registry.server j = w.registry.server j := by
  cases h with
  | kept s hs hc => rfl
  | refused e hst hd => exact server_cleared_of_ne hj hne
  | bound s hst hd hb =>
    refine Eq.trans ?_ (server_cleared_of_ne hj hne)
    exact Registry.server_setSession_of_ne (some s) ((size_cleared i w).symm ▸ hj) hne.symm
  | unbound s e hst hd hb => exact server_cleared_of_ne hj hne

theorem closed (hclosed : ∀ s n, m.transport.isConnected s (m.transport.close s n).2 = false)
    (h : m.Connecting i w answer w') {new : List Event} (hnew : w'.log = new ++ w.log)
    {s : SessionId} {request : BindRequest} {a : Except Failure LdapResult}
    (hmem : Event.bind s request a ∈ new) (hna : ¬ Accepted a) :
    (∃ b, Event.close s b ∈ new) ∧ m.transport.isConnected s w'.net = false := by
  cases h with
  | kept s' hs hc =>
    obtain rfl : new = [] := by simpa using hnew
    cases hmem
  | refused e hst hd =>
    rw [log_dialled] at hnew
    obtain rfl := List.append_cancel_right (show [_] ++ w.log = new ++ w.log from hnew)
    simp at hmem
  | bound s' hst hd hb =>
    have hl : (store i (some s') (m.loggedIn i s' w)).2.log = (m.loggedIn i s' w).log := rfl
    rw [hl, log_loggedIn] at hnew
    obtain rfl := List.append_cancel_right (show [_, _] ++ w.log = new ++ w.log from hnew)
    obtain ⟨rfl, rfl, rfl⟩ : s = s' ∧ request = _ ∧ a = _ := by simpa using hmem
    exact absurd (bindError_eq_none_iff.mp hb) hna
  | unbound s' e hst hd hb =>
    rw [Transport.hangUp, World.log_call, log_loggedIn] at hnew
    obtain rfl := List.append_cancel_right (show [_, _, _] ++ w.log = new ++ w.log from hnew)
    obtain ⟨rfl, rfl, rfl⟩ : s = s' ∧ request = _ ∧ a = _ := by simpa using hmem
    exact ⟨⟨_, List.mem_cons_self⟩, hclosed s _⟩

end Connecting

theorem connectsAlone (hclosed : ∀ s n, m.transport.isConnected s (m.transport.close s n).2 = false)
    {i : Nat} {w : World N} (hi : i < w.registry.size) : m.ConnectsAlone i w := by
  have hspec := m.connectServer_spec i w
  refine ⟨fun e he => ?_, fun j hj hne => hspec.others hj hne, ?_⟩
  · rw [he] at hspec
    exact hspec.empty hi
  · exact fun new hnew s request a hmem hna => hspec.closed hclosed hnew hmem hna

end Manager

end DirectoryClient
