import DirectoryClient.Proofs.Run.Sessions.Basic

/-!
# The invariant of the sessions

* `SessionInv`   what carries `SessionsKept` from world to world;
* `SessionInv.lose`, `quiet`, `clear`   nothing is opened: a server may lose a session that is not
                 connected;
* `Renewal`      a new session is opened for one server, and is stored or closed
                 (`renewal_stored`, `renewal_hungUp`, `Renewal.sessionInv`).
-/

namespace DirectoryClient

namespace Manager

variable {N : Type} {m : Manager N}

/-! ## The invariant -/

variable (m) in
/-- what carries `SessionsKept` from world to world -/
structure SessionInv (known : N → SessionId → Prop) (w : World N) : Prop extends
    m.SessionsKept w where
  opened : ∀ i s, w.Opened i s → i < w.registry.size ∧ known w.net s
  single : ∀ i j s, w.Opened i s → w.Opened j s → i = j
  logged : ∀ s request answer, Event.bind s request answer ∈ w.log → known w.net s

variable {known : N → SessionId → Prop} {w w' : World N}

/-- What is not quiet happened before. -/
theorem mem_of_quiet {new : List Event} (hlog : w'.log = new ++ w.log)
    (hq : ∀ e ∈ new, e.IsQuiet) {e : Event} (he : ¬ e.IsQuiet) (hm : e ∈ w'.log) : e ∈ w.log := by
  rw [hlog] at hm
  exact (List.mem_append.mp hm).resolve_left fun hn => he (hq e hn)

theorem opened_of_quiet {new : List Event} (hlog : w'.log = new ++ w.log)
    (hq : ∀ e ∈ new, e.IsQuiet) {i : Nat} {s : SessionId} (h : w'.Opened i s) : w.Opened i s := by
  obtain ⟨settings, hm⟩ := h
  exact ⟨settings, mem_of_quiet hlog hq id hm⟩

theorem Opened.mono {new : List Event} (hlog : w'.log = new ++ w.log) {i : Nat} {s : SessionId}
    (h : w.Opened i s) : w'.Opened i s := by
  obtain ⟨settings, hm⟩ := h
  exact ⟨settings, hlog ▸ List.mem_append_right _ hm⟩

/-- Nothing is opened and nothing is bound; a server keeps its session, or loses one that is not
connected any more; what joins the registry has no session. -/
theorem SessionInv.lose (h : m.SessionInv known w) (hsize : w.registry.size ≤ w'.registry.size)
    (hrecord : ∀ i < w.registry.size,
      (w'.registry.server i).record = (w.registry.server i).record)
    (hsession : ∀ i < w.registry.size,
      (w'.registry.server i).session = (w.registry.server i).session ∨
      (w'.registry.server i).session = none ∧ ∀ s, (w.registry.server i).session = some s →
        m.transport.isConnected s w'.net = false)
    (hjoined : ∀ i < w'.registry.size, w.registry.size ≤ i →
      (w'.registry.server i).session = none)
    (new : List Event) (hlog : w'.log = new ++ w.log) (hq : ∀ e ∈ new, e.IsQuiet)
    (hnet : m.transport.Wanes known w.net w'.net) : m.SessionInv known w' := by
  -- a session that is stored now was stored before, with the same server
  have hold : ∀ i < w'.registry.size, ∀ s, (w'.registry.server i).session = some s →
      i < w.registry.size ∧ (w.registry.server i).session = some s := by
    intro i hi s hs
    have hlt : i < w.registry.size := by
      by_contra hge
      rw [hjoined i hi (Nat.le_of_not_lt hge)] at hs
      cases hs
    rcases hsession i hlt with he | ⟨he, -⟩
    · exact ⟨hlt, he ▸ hs⟩
    · rw [he] at hs
      cases hs
  refine ⟨⟨?_, ?_, ?_⟩, ?_, ?_, ?_⟩
  · intro i s ho hc
    have ho' := opened_of_quiet hlog hq ho
    obtain ⟨hi, hs, hu⟩ := h.live i s ho' (hnet.fades s (h.opened i s ho').2 hc)
    refine ⟨Nat.lt_of_lt_of_le hi hsize, ?_, fun j hj hjs => ?_⟩
    · rcases hsession i hi with he | ⟨-, hd⟩
      · exact he.trans hs
      · rw [hd s hs] at hc
        cases hc
    · obtain ⟨hlt, hjs'⟩ := hold j hj s hjs
      exact hu j hlt hjs'
  · intro i hi s hs
    obtain ⟨hlt, hs'⟩ := hold i hi s hs
    obtain ⟨ho, answer, hb, ha⟩ := h.bound i hlt s hs'
    rw [hrecord i hlt]
    exact ⟨Opened.mono hlog ho, answer, hlog ▸ List.mem_append_right _ hb, ha⟩
  · intro s request answer hb hna
    have hold := mem_of_quiet hlog hq id hb
    obtain ⟨⟨a, ha⟩, hc⟩ := h.closed s request answer hold hna
    exact ⟨⟨a, hlog ▸ List.mem_append_right _ ha⟩, hnet.lost (h.logged s request answer hold) hc⟩
  · intro i s ho
    obtain ⟨hi, hk⟩ := h.opened i s (opened_of_quiet hlog hq ho)
    exact ⟨Nat.lt_of_lt_of_le hi hsize, hnet.stays s hk⟩
  · exact fun i j s hi hj =>
      h.single i j s (opened_of_quiet hlog hq hi) (opened_of_quiet hlog hq hj)
  · intro s request answer hb
    exact hnet.stays s (h.logged s request answer (mem_of_quiet hlog hq id hb))

/-- The registry stays the same. -/
theorem SessionInv.quiet (h : m.SessionInv known w) (hreg : w'.registry = w.registry)
    (new : List Event) (hlog : w'.log = new ++ w.log) (hq : ∀ e ∈ new, e.IsQuiet)
    (hnet : m.transport.Wanes known w.net w'.net) : m.SessionInv known w' := by
  refine h.lose (Nat.le_of_eq (congrArg _ hreg.symm)) ?_ ?_ ?_ new hlog hq hnet
  · exact fun i _ => by rw [hreg]
  · exact fun i _ => .inl (by rw [hreg])
  · intro i hi hge
    rw [hreg] at hi
    exact absurd hi (Nat.not_lt_of_le hge)

/-- The server at a position loses its session. -/
theorem SessionInv.clear (h : m.SessionInv known w) (i : Nat)
    (hreg : w'.registry = (cleared i w).registry)
    (hc : ∀ s, (w.registry.server i).session = some s → m.transport.isConnected s w'.net = false)
    (new : List Event) (hlog : w'.log = new ++ w.log) (hq : ∀ e ∈ new, e.IsQuiet)
    (hnet : m.transport.Wanes known w.net w'.net) : m.SessionInv known w' := by
  have hsize : w'.registry.size = w.registry.size := by rw [hreg, size_cleared]
  refine h.lose (Nat.le_of_eq hsize.symm) ?_ ?_ ?_ new hlog hq hnet
  · exact fun j _ => by rw [hreg, record_cleared]
  · intro j hj
    rw [hreg]
    by_cases hji : j = i
    · subst hji
      exact .inr ⟨server_cleared_self hj, hc⟩
    · exact .inl (by rw [server_cleared_of_ne hj hji])
  · intro j hj hge
    rw [hsize] at hj
    exact absurd hj (Nat.not_lt_of_le hge)

/-! ## Opening a session -/

/-- The session that connecting gives was not known before. -/
theorem new_of_dialAnswer (hl : m.transport.Lawful known) {i : Nat} {s : SessionId}
    (hd : m.dialAnswer i w = .ok (some s)) :
    ¬ known w.net s ∧ known (m.loggedIn i s w).net s := by
  obtain ⟨hn, hk⟩ := hl.new _ w.net s hd
  exact ⟨hn, (hl.bind _ _ _).stays s hk⟩

theorem wanes_loggedIn (hl : m.transport.Lawful known) (i : Nat) (s : SessionId) :
    m.transport.Wanes known w.net (m.loggedIn i s w).net :=
  (hl.connect _ _).trans (hl.bind _ _ _)

theorem opened_loggedIn_iff {i j : Nat} {s s' : SessionId}
    (hd : m.dialAnswer i w = .ok (some s)) :
    (m.loggedIn i s w).Opened j s' ↔ (j = i ∧ s' = s) ∨ w.Opened j s' := by
  simp only [World.Opened, log_loggedIn, List.mem_cons, hd, reduceCtorEq, false_or]
  constructor
  · rintro ⟨settings, he | hm⟩
    · simp only [Event.connect.injEq, Except.ok.injEq, Option.some.injEq] at he
      exact .inl ⟨he.1, he.2.2⟩
    · exact .inr ⟨settings, hm⟩
  · rintro (⟨rfl, rfl⟩ | ⟨settings, hm⟩)
    · exact ⟨_, .inl rfl⟩
    · exact ⟨settings, .inr hm⟩

theorem bind_mem_loggedIn_iff {i : Nat} {s s' : SessionId} {request : BindRequest}
    {answer : Except Failure LdapResult} : Event.bind s' request answer ∈ (m.loggedIn i s w).log ↔
      (s' = s ∧ request = (w.registry.server i).record.bindRequest ∧
        answer = m.bindAnswer i s w) ∨ Event.bind s' request answer ∈ w.log := by
  simp [log_loggedIn]

theorem SessionInv.ne_of_opened (h : m.SessionInv known w) {s : SessionId} (hn : ¬ known w.net s)
    {j : Nat} {s' : SessionId} (ho : w.Opened j s') : s' ≠ s := by
  rintro rfl
  exact hn (h.opened j s' ho).2

/-- A server whose session was stale has got a new one, or none: the new session was opened and a
bind on it was tried, and `new` is what happened since. -/
structure Renewal (i : Nat) (s : SessionId) (new : List Event) (w w' : World N) : Prop where
  inside : i < w.registry.size
  stale : m.Stale i w
  given : m.dialAnswer i w = .ok (some s)
  size : w'.registry.size = w.registry.size
  others : ∀ j < w.registry.size, j ≠ i → w'.registry.server j = w.registry.server j
  same : (w'.registry.server i).record = (w.registry.server i).record
  log : w'.log = new ++ (m.loggedIn i s w).log
  quiet : ∀ e ∈ new, e.IsQuiet
  /-- the new session is stored if it was bound, and closed otherwise -/
  settled : (w'.registry.server i).session = some s ∧ Accepted (m.bindAnswer i s w) ∨
    (w'.registry.server i).session = none ∧ (∃ a, Event.close s a ∈ new) ∧
      m.transport.isConnected s w'.net = false

namespace Renewal

variable {i : Nat} {s : SessionId} {new : List Event}

theorem opened_cases (r : m.Renewal i s new w w') {j : Nat} {s' : SessionId}
    (ho : w'.Opened j s') : (j = i ∧ s' = s) ∨ w.Opened j s' :=
  (opened_loggedIn_iff r.given).mp (opened_of_quiet r.log r.quiet ho)

theorem opened_self (r : m.Renewal i s new w w') : w'.Opened i s :=
  Opened.mono r.log ((opened_loggedIn_iff r.given).mpr (.inl ⟨rfl, rfl⟩))

theorem opened_old (r : m.Renewal i s new w w') {j : Nat} {s' : SessionId}
    (ho : w.Opened j s') : w'.Opened j s' :=
  Opened.mono r.log ((opened_loggedIn_iff r.given).mpr (.inr ho))

theorem bind_cases (r : m.Renewal i s new w w') {s' : SessionId} {request : BindRequest}
    {answer : Except Failure LdapResult} (hb : Event.bind s' request answer ∈ w'.log) :
    (s' = s ∧ answer = m.bindAnswer i s w) ∨ Event.bind s' request answer ∈ w.log := by
  rcases bind_mem_loggedIn_iff.mp (mem_of_quiet r.log r.quiet id hb) with ⟨hs, -, ha⟩ | hb
  · exact .inl ⟨hs, ha⟩
  · exact .inr hb

theorem mem_of_mem (r : m.Renewal i s new w w') {e : Event} (he : e ∈ w.log) : e ∈ w'.log := by
  rw [r.log]
  exact List.mem_append_right _ (List.mem_cons_of_mem _ (List.mem_cons_of_mem _ he))

theorem bind_mem (r : m.Renewal i s new w w') :
    Event.bind s (w.registry.server i).record.bindRequest (m.bindAnswer i s w) ∈ w'.log := by
  rw [r.log]
  exact List.mem_append_right _ List.mem_cons_self

/-- The server has the new session or none. -/
theorem eq_of_stored (r : m.Renewal i s new w w') {s' : SessionId}
    (hs : (w'.registry.server i).session = some s') :
    s' = s ∧ Accepted (m.bindAnswer i s w) := by
  rcases r.settled with ⟨h, ha⟩ | ⟨h, -, -⟩
  · exact ⟨Option.some.inj (hs.symm.trans h), ha⟩
  · rw [h] at hs
    cases hs

/-- If the new session is connected then it is stored. -/
theorem stored_of_live (r : m.Renewal i s new w w')
    (hc : m.transport.isConnected s w'.net = true) : (w'.registry.server i).session = some s := by
  rcases r.settled with ⟨h, -⟩ | ⟨-, -, h⟩
  · exact h
  · rw [h] at hc
    cases hc

theorem sessionsKept (r : m.Renewal i s new w w') (hn : ¬ known w.net s)
    (hnet : m.transport.Wanes known w.net w'.net) (h : m.SessionInv known w) :
    m.SessionsKept w' := by
  refine ⟨?_, ?_, ?_⟩
  · intro j s' ho hc
    rw [r.size]
    rcases r.opened_cases ho with ⟨rfl, rfl⟩ | how
    · refine ⟨r.inside, r.stored_of_live hc, fun k hk hks => ?_⟩
      by_contra hne
      rw [r.others k hk hne] at hks
      exact h.ne_of_opened hn (h.bound k hk s' hks).1 rfl
    · have hcw := hnet.fades s' (h.opened j s' how).2 hc
      obtain ⟨hj, hjs, hu⟩ := h.live j s' how hcw
      -- the stale session that was replaced is not connected
      have hji : j ≠ i := by
        rintro rfl
        rw [r.stale s' hjs] at hcw
        cases hcw
      refine ⟨hj, by rw [r.others j hj hji, hjs], fun k hk hks => ?_⟩
      by_cases hki : k = i
      · subst hki
        exact absurd (r.eq_of_stored hks).1 (h.ne_of_opened hn how)
      · exact hu k hk (r.others k hk hki ▸ hks)
  · intro j hj s' hs
    rw [r.size] at hj
    by_cases hji : j = i
    · subst hji
      obtain ⟨rfl, ha⟩ := r.eq_of_stored hs
      rw [r.same]
      exact ⟨r.opened_self, _, r.bind_mem, ha⟩
    · rw [r.others j hj hji] at hs ⊢
      obtain ⟨ho, answer, hb, ha⟩ := h.bound j hj s' hs
      exact ⟨r.opened_old ho, answer, r.mem_of_mem hb, ha⟩
  · intro s' request answer hb hna
    rcases r.bind_cases hb with ⟨rfl, rfl⟩ | hb
    · rcases r.settled with ⟨-, ha⟩ | ⟨-, ⟨a, hm⟩, hc⟩
      · exact absurd ha hna
      · exact ⟨⟨a, r.log ▸ List.mem_append_left _ hm⟩, hc⟩
    · obtain ⟨⟨a, hm⟩, hc⟩ := h.closed s' request answer hb hna
      exact ⟨⟨a, r.mem_of_mem hm⟩, hnet.lost (h.logged s' request answer hb) hc⟩

theorem sessionInv (r : m.Renewal i s new w w') (hl : m.transport.Lawful known)
    (hnet : m.transport.Wanes known (m.loggedIn i s w).net w'.net) (h : m.SessionInv known w) :
    m.SessionInv known w' := by
  obtain ⟨hn, hk⟩ := new_of_dialAnswer hl r.given
  have hwanes := (wanes_loggedIn hl i s).trans hnet
  refine { r.sessionsKept hn hwanes h with opened := ?_, single := ?_, logged := ?_ }
  · intro j s' ho
    rw [r.size]
    rcases r.opened_cases ho with ⟨rfl, rfl⟩ | ho
    · exact ⟨r.inside, hnet.stays s' hk⟩
    · exact ⟨(h.opened j s' ho).1, hwanes.stays s' (h.opened j s' ho).2⟩
  · intro j k s' hoj hok
    rcases r.opened_cases hoj with ⟨rfl, rfl⟩ | hoj <;>
      rcases r.opened_cases hok with ⟨rfl, he⟩ | hok
    · rfl
    · exact absurd rfl (h.ne_of_opened hn hok)
    · exact absurd he (h.ne_of_opened hn hoj)
    · exact h.single j k s' hoj hok
  · intro s' request answer hb
    rcases r.bind_cases hb with ⟨rfl, -⟩ | hb
    · exact hnet.stays s' hk
    · exact hwanes.stays s' (h.logged s' request answer hb)

end Renewal

/-- The new session is stored. -/
theorem renewal_stored {i : Nat} {s : SessionId} (hi : i < w.registry.size) (hst : m.Stale i w)
    (hd : m.dialAnswer i w = .ok (some s)) (ha : Accepted (m.bindAnswer i s w)) :
    m.Renewal i s [] w (store i (some s) (m.loggedIn i s w)).2 := by
  have hself : (store i (some s) (m.loggedIn i s w)).2.registry.server i =
      { record := ((cleared i w).registry.server i).record, session := some s } :=
    Registry.server_setSession_self (some s) ((size_cleared i w).symm ▸ hi)
  refine
    { inside := hi, stale := hst, given := hd, size := ?_, others := ?_, same := ?_, log := rfl,
      quiet := List.forall_mem_nil _, settled := .inl ⟨by rw [hself], ha⟩ }
  · exact (Registry.size_setSession _ i (some s)).trans (size_cleared i w)
  · intro j hj hne
    refine Eq.trans ?_ (server_cleared_of_ne hj hne)
    exact Registry.server_setSession_of_ne (some s) ((size_cleared i w).symm ▸ hj) hne.symm
  · rw [hself, record_cleared]

/-- The new session is closed again. -/
theorem renewal_hungUp {i : Nat} {s : SessionId} (hl : m.transport.Lawful known)
    (hi : i < w.registry.size) (hst : m.Stale i w) (hd : m.dialAnswer i w = .ok (some s)) :
    m.Renewal i s [.close s (m.transport.hangUp s (m.loggedIn i s w)).1] w
      (m.transport.hangUp s (m.loggedIn i s w)).2 where
  inside := hi
  stale := hst
  given := hd
  size := size_cleared i w
  others _ hj hne := server_cleared_of_ne hj hne
  same := record_cleared i i w
  log := rfl
  quiet := by simp [Event.IsQuiet]
  settled := .inr ⟨server_cleared_self hi, ⟨_, List.mem_cons_self⟩, hl.closed s _⟩

end Manager

end DirectoryClient
