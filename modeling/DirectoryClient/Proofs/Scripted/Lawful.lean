import DirectoryClient.Proofs.Run.Reachable
import DirectoryClient.Proofs.Run.Sessions.Basic
import DirectoryClient.Scripted.Network

/-!
# The scripted network is lawful

Its sessions are numbered in the order in which they are opened, so that a new one was not there
before, and nothing connects a session again.

* `Known`      the sessions that were opened so far;
* `Wanes.of_sessions_eq`, `wanes_drop`, `wanes_suffer`   what the calls are made of;
* `lawful`     the whole;
* `client`, `started`   a client of one server before its first operation (`reachable_started`);
* `unsteady`   servers among which a search is sent about.
-/

namespace DirectoryClient.Scripted

open Network

/-- whether a session was opened so far -/
def Known (n : Network) (s : SessionId) : Prop := (n.session? s).isSome = true

variable {n n' : Network} {s : SessionId}

theorem known_iff : Known n s ↔ 0 < s.number ∧ s.number ≤ n.sessions.length := by
  unfold Known session?
  by_cases h : s.number = 0
  · simp [h]
  · rw [if_neg h, Option.isSome_iff_exists]
    simp only [List.getElem?_eq_some_iff]
    constructor
    · rintro ⟨x, hlt, -⟩
      omega
    · rintro ⟨-, hle⟩
      exact ⟨_, by omega, rfl⟩

theorem session?_congr (h : n'.sessions = n.sessions) (s : SessionId) :
    n'.session? s = n.session? s := by
  unfold session?
  rw [h]

theorem wanes_of_sessions_eq (h : n'.sessions = n.sessions) : transport.Wanes Known n n' where
  stays s hs := by
    unfold Known at hs ⊢
    rwa [session?_congr h]
  fades s _ hc := by
    show n.isConnected s = true
    change n'.isConnected s = true at hc
    unfold isConnected at hc ⊢
    rwa [session?_congr h] at hc

theorem sessions_length_drop (s : SessionId) (n : Network) :
    (n.drop s).sessions.length = n.sessions.length := by
  unfold drop
  cases n.session? s with
  | none => rfl
  | some x => exact List.length_set

/-- Dropping a session leaves the others alone. -/
theorem session?_drop_of_ne {t : SessionId} (hne : t ≠ s) (n : Network) :
    (n.drop s).session? t = n.session? t := by
  unfold drop
  cases hs : n.session? s with
  | none => rfl
  | some x =>
    have hpos : 0 < s.number := (known_iff.mp (Option.isSome_iff_exists.mpr ⟨x, hs⟩)).1
    have hnum : t.number ≠ s.number := fun h => hne (by cases t; cases s; exact congrArg _ h)
    unfold session?
    by_cases ht : t.number = 0
    · rw [if_pos ht, if_pos ht]
    · rw [if_neg ht, if_neg ht]
      exact List.getElem?_set_ne (by omega)

theorem wanes_drop (s : SessionId) (n : Network) : transport.Wanes Known n (n.drop s) where
  stays t ht := by
    rw [known_iff] at ht ⊢
    rwa [sessions_length_drop]
  fades t ht hc := by
    show n.isConnected t = true
    change (n.drop s).isConnected t = true at hc
    by_cases hts : t = s
    · subst hts
      rw [isConnected_drop] at hc
      cases hc
    · unfold isConnected at hc ⊢
      rwa [session?_drop_of_ne hts] at hc

theorem wanes_suffer (d : Damage) (s : SessionId) (n : Network) :
    transport.Wanes Known n (n.suffer d s) := by
  cases d with
  | none => exact .refl n
  | sessionLost => exact wanes_drop s n
  | serverLost => exact (wanes_drop s n).trans (wanes_of_sessions_eq rfl)

theorem wanes_append (n : Network) (x : Session) :
    transport.Wanes Known n { n with sessions := n.sessions ++ [x] } := by
  have hold : ∀ t, Known n t →
      Network.session? { n with sessions := n.sessions ++ [x] } t = n.session? t := by
    intro t ht
    have hlt : t.number - 1 < n.sessions.length := by have := known_iff.mp ht; omega
    unfold session?
    rw [List.getElem?_append_left hlt]
  constructor
  · intro t ht
    unfold Known
    rw [hold t ht]
    exact ht
  · intro t ht hc
    show n.isConnected t = true
    change Network.isConnected t _ = true at hc
    unfold isConnected at hc ⊢
    rwa [hold t ht] at hc

/-! ## The calls -/

/-- Only a server that welcomes the client opens a session. -/
theorem connect_cases (settings : Settings) (n : Network) :
    ((∀ s, (Network.connect settings n).1 ≠ .ok (some s)) ∧
      (Network.connect settings n).2.sessions = n.sessions) ∨
    ((Network.connect settings n).1 = .ok (some ⟨n.sessions.length + 1⟩) ∧
      ∃ (n' : Network) (x : Session), n'.sessions = n.sessions ∧
        (Network.connect settings n).2 = { n' with sessions := n'.sessions ++ [x] }) := by
  unfold Network.connect
  dsimp only
  split
  · exact .inl ⟨nofun, rfl⟩
  · exact .inl ⟨nofun, rfl⟩
  · exact .inr ⟨rfl, n.setHost _ _, _, rfl, rfl⟩

theorem wanes_connect (settings : Settings) (n : Network) :
    transport.Wanes Known n (Network.connect settings n).2 := by
  rcases connect_cases settings n with ⟨-, h⟩ | ⟨-, n', x, h, he⟩
  · exact wanes_of_sessions_eq h
  · rw [he]
    exact (wanes_of_sessions_eq h).trans (wanes_append n' x)

theorem new_connect {settings : Settings} (h : (Network.connect settings n).1 = .ok (some s)) :
    ¬ Known n s ∧ Known (Network.connect settings n).2 s := by
  rcases connect_cases settings n with ⟨hne, -⟩ | ⟨hs, n', x, hn, he⟩
  · exact absurd h (hne s)
  · obtain rfl : SessionId.mk (n.sessions.length + 1) = s :=
      Option.some.inj (Except.ok.inj (hs.symm.trans h))
    rw [known_iff, known_iff, he, List.length_append, hn, List.length_singleton]
    exact ⟨by simp, Nat.succ_pos _, Nat.le_refl _⟩

theorem sessions_bind (s : SessionId) (request : BindRequest) (n : Network) :
    (Network.bind s request n).2.sessions = n.sessions := by
  unfold Network.bind
  dsimp only
  split <;> rfl

theorem wanes_search (s : SessionId) (request : SearchRequest) (n : Network) :
    transport.Wanes Known n (Network.search s request n).2 := by
  unfold Network.search
  split
  · dsimp only
    split
    · refine (wanes_of_sessions_eq ?_).trans (wanes_suffer _ s _)
      rfl
    · exact wanes_of_sessions_eq rfl
  · exact .refl n

theorem wanes_next (c : CursorId) (n : Network) :
    transport.Wanes Known n (Network.next c n).2 := by
  unfold Network.next
  split
  · exact .refl n
  · split
    · exact wanes_of_sessions_eq rfl
    · exact wanes_of_sessions_eq rfl
    · refine (wanes_of_sessions_eq ?_).trans (wanes_suffer _ _ _)
      rfl

theorem sessions_finish (c : CursorId) (n : Network) :
    (Network.finish c n).2.sessions = n.sessions := by
  unfold Network.finish
  split
  · rfl
  · split <;> rfl

theorem sessions_markDone (c : CursorId) (n : Network) : (n.markDone c).sessions = n.sessions := by
  unfold markDone
  split <;> rfl

/-- **The scripted network hands out new sessions only, and never brings one back.** -/
theorem lawful : transport.Lawful Known where
  new _ _ _ h := new_connect h
  closed s n := isConnected_close s n
  connect := wanes_connect
  bind s request n := wanes_of_sessions_eq (sessions_bind s request n)
  search := wanes_search
  close s n := (wanes_drop s n).trans (wanes_of_sessions_eq rfl)
  next := wanes_next
  finish c n := wanes_of_sessions_eq (sessions_finish c n)
  abandon c n := wanes_of_sessions_eq (sessions_markDone c n)
  cancel c n := wanes_of_sessions_eq (sessions_markDone c n)

/-! ## A small client -/

def client : Manager Network where
  config := { host := "ldap.example.com", bindDn := "cn=reader", bindPassword := some "secret" }
  schema := .standard
  classifier := .standard
  transport := transport

def home : Registry where
  first :=
    { record :=
        { host := "ldap.example.com"
          port := 389
          security := .plain
          connectTimeout := 30
          operationTimeout := some 120
          tls := {}
          baseContext := none
          bindDn := "cn=reader"
          bindSecret := some ⟨"secret"⟩
          origin := .configured } }
  rest := []

def started (net : Network) : World Network := { net, registry := home, chance := fun _ => 0 }

theorem ofConfig_client : Registry.ofConfig client.schema client.config = .ok home := rfl

theorem reachable_started (drift : Network → Network → Prop) (net : Network) :
    client.Reachable drift (started net) := .start ofConfig_client net _

/-- the default server is busy, then refers a search to another one, which loses it once -/
def unsteady : Network where
  hosts :=
    [("ldap.example.com:389",
      { scripts :=
          [.stream [] (some { code := ResultCode.busy }),
            .stream [] (some { code := ResultCode.referral, urls := ["ldap://r1/"] })] }),
      ("r1:389", { scripts := [.stream [.failure .endOfStream false .sessionLost] none] })]

end DirectoryClient.Scripted
