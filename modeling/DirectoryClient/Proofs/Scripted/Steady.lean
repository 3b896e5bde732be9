import DirectoryClient.Proofs.Referrals.Sites
import DirectoryClient.Proofs.Scripted.Lawful

/-!
# A network that never changes its answers

Scripts come to an end.  Here every site gives all searches the same answer, however often it is
asked.

* `Steady`          the sessions and cursors that were opened, numbered from zero;
* `steady`          the calls of the client;
* `serves_steady`   every site can be reached, and answers as it should.
-/

namespace DirectoryClient.Scripted

structure Steady where
  /-- the sites of the sessions; none for those that were closed -/
  sessions : List (Option Site) := []
  /-- the site of every cursor, and what it has still to give -/
  cursors : List (Site × List Response) := []

namespace Steady

def search (posting : Site → Posting) (s : SessionId) (n : Steady) :
    Except Failure CursorId × Steady :=
  match n.sessions[s.number]? with
  | some (some x) =>
    (.ok ⟨n.cursors.length⟩, { n with cursors := n.cursors ++ [(x, (posting x).responses)] })
  | _ => (.error (.io "session is closed"), n)

def next (c : CursorId) (n : Steady) : Except Failure (Option Response) × Steady :=
  match n.cursors[c.number]? with
  | some (x, r :: l) => (.ok (some r), { n with cursors := n.cursors.set c.number (x, l) })
  | _ => (.ok none, n)

def finish (posting : Site → Posting) (c : CursorId) (n : Steady) : Option LdapResult :=
  match n.cursors[c.number]? with
  | some (x, []) => some (posting x).result
  | _ => none

def contacts : Contacts Steady where
  opened n s x := n.sessions[s.number]? = some (some x)
  reading n c x l := n.cursors[c.number]? = some (x, l)
  read n c x := n.cursors[c.number]? = some (x, [])

end Steady

open Steady

/-- Every site takes connections and binds. -/
def steady (posting : Site → Posting) : Transport Steady where
  connect settings n := (.ok (some ⟨n.sessions.length⟩),
    { n with sessions := n.sessions ++ [some settings.site] })
  bind _ _ n := (.ok { code := ResultCode.success }, n)
  search s _ n := n.search posting s
  isConnected s n := (n.sessions[s.number]?).any (·.isSome)
  close s n := (.ok (), { n with sessions := n.sessions.set s.number none })
  next c n := n.next c
  finish c n := (n.finish posting c, n)
  isDone c n := (n.cursors[c.number]?).all (·.2.isEmpty)
  abandon _ n := (.ok (), n)
  cancel _ n := n

theorem keeps_of_sessions_eq {n n' : Steady} (h : n'.sessions = n.sessions) :
    contacts.Keeps n n' := by
  intro s x hs
  show n'.sessions[s.number]? = some (some x)
  rw [h]
  exact hs

theorem sessions_search (posting : Site → Posting) (s : SessionId) (n : Steady) :
    (n.search posting s).2.sessions = n.sessions := by
  unfold Steady.search
  split
  · rfl
  · rfl

theorem sessions_next (c : CursorId) (n : Steady) : (n.next c).2.sessions = n.sessions := by
  unfold Steady.next
  split
  · rfl
  · rfl

theorem serves_steady (sites : Set Site) (posting : Site → Posting) :
    (steady posting).Serves contacts sites posting where
  connect {settings} _ n := by
    refine ⟨⟨n.sessions.length⟩, rfl, ?_⟩
    show (n.sessions ++ [some settings.site])[n.sessions.length]? = some (some settings.site)
    exact List.getElem?_concat_length
  bind _ request := ⟨_, rfl, rfl⟩
  search {n s x} h request := by
    have hopened : n.sessions[s.number]? = some (some x) := h
    have hsearch : n.search posting s = (.ok ⟨n.cursors.length⟩,
        { n with cursors := n.cursors ++ [(x, (posting x).responses)] }) := by
      rw [Steady.search, hopened]
    refine ⟨⟨n.cursors.length⟩, congrArg Prod.fst hsearch, ?_⟩
    show (n.search posting s).2.cursors[n.cursors.length]? = some (x, (posting x).responses)
    rw [hsearch]
    exact List.getElem?_concat_length
  next {n c x r l} h := by
    have hreading : n.cursors[c.number]? = some (x, r :: l) := h
    have hnext : n.next c =
        (.ok (some r), { n with cursors := n.cursors.set c.number (x, l) }) := by
      rw [Steady.next, hreading]
    obtain ⟨hlt, -⟩ := List.getElem?_eq_some_iff.mp hreading
    refine ⟨congrArg Prod.fst hnext, ?_⟩
    show (n.next c).2.cursors[c.number]? = some (x, l)
    rw [hnext]
    exact List.getElem?_set_self hlt
  last {n c x} h := by
    have hread : n.cursors[c.number]? = some (x, []) := h
    have hnext : n.next c = (.ok none, n) := by rw [Steady.next, hread]
    refine ⟨congrArg Prod.fst hnext, ?_⟩
    show (n.next c).2.cursors[c.number]? = some (x, [])
    rw [hnext]
    exact hread
  finish {n c x} h := by
    have hread : n.cursors[c.number]? = some (x, []) := h
    show n.finish posting c = _
    rw [Steady.finish, hread]
  keeps_connect settings n := by
    intro s x hs
    have hopened : n.sessions[s.number]? = some (some x) := hs
    obtain ⟨hlt, -⟩ := List.getElem?_eq_some_iff.mp hopened
    show (n.sessions ++ [some settings.site])[s.number]? = some (some x)
    rw [List.getElem?_append_left hlt]
    exact hopened
  keeps_bind s request n := .refl n
  keeps_search s request n := keeps_of_sessions_eq (sessions_search posting s n)
  keeps_next c n := keeps_of_sessions_eq (sessions_next c n)
  keeps_finish c n := .refl n
  keeps_abandon c n := .refl n
  keeps_cancel c n := .refl n

end DirectoryClient.Scripted
