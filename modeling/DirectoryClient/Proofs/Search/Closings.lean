import DirectoryClient.Proofs.Run.Closings
import DirectoryClient.Proofs.Search.Places

/-!
# Sessions that are closed twice

* `Manager.Thrifty`     each session is closed once more at most, and only those that were not closed
                        yet, with the exception of one;
* `Search.Spent`        how often the passes of a search close a session (`Walks.spent`);
* `Search.Sparing`      what carries this from stage to stage;
* `Manager.History`     operations one after another, each with the world that it begins in;
* `Manager.Recloses`    an operation that closes a session again;
* `Manager.Retires`     what one operation does to the sessions (`retires_perform`);
* `tally_of_history`    a session is closed twice if there was such an operation, and only then;
* `closed_twice`        a history in which this happens.
-/

namespace DirectoryClient

open Relation

/-! ## One session may be closed again -/

namespace Manager

variable {N : Type} {m : Manager N} {known : N → SessionId → Prop} {given : Option SessionId}
  {w w' u : World N}

/-- Each session is closed once more at most, and not if it was closed before, unless it is the given
one. -/
def Thrifty (given : Option SessionId) (w w' : World N) : Prop :=
  ∀ s, w'.closings s = w.closings s ∨
    w'.closings s = w.closings s + 1 ∧ (w.closings s = 0 ∨ given = some s)

namespace Thrifty

theorem refl (given : Option SessionId) (w : World N) : Thrifty given w w := fun _ => .inl rfl

theorem unclosed (h : Thrifty given w w') {s : SessionId} (hs : w'.closings s = 0) :
    w.closings s = 0 := by
  rcases h s with he | ⟨he, -⟩ <;> omega

theorem spares (h : Thrifty given w u) (hu : m.Tidy known u) (hs : m.Spares known u w') :
    Thrifty given w w' := by
  intro s
  rcases hs.closings s with he | ⟨hn, -, -, he⟩
  · rw [he]
    exact h s
  · -- what is closed now was not known before
    have hzero := hu.unclosed_of_unknown hn
    have hzero' := h.unclosed hzero
    exact .inr ⟨by rw [he, hzero, hzero'], .inl hzero'⟩

theorem hangUp (h : Thrifty given w u) {s : SessionId} (hs : u.closings s = w.closings s)
    (hopen : w.closings s = 0 ∨ given = some s) :
    Thrifty given w (m.transport.hangUp s u).2 := by
  intro t
  by_cases hst : s = t
  · subst hst
    exact .inr ⟨by rw [closings_hangUp_self, hs], hopen⟩
  · rw [closings_hangUp_of_ne hst]
    exact h t

end Thrifty

end Manager

/-! ## Along a search -/

namespace Search

open Manager

variable {N O : Type} {s : Search N O} {known : N → SessionId → Prop} {base : Dn}
  {request : SearchRequest} {p p' q : Progress O} {w w' u v : World N} {legs : List Leg}
  {a b : Stage N O} {r : Round} {conn : Connection} {answer : Option (Except ClientError Unit)}

variable (s) in
/-- what the passes of a search that were begun so far do to the sessions -/
structure Spent (known : N → SessionId → Prop) (w : World N) (legs : List Leg) (w' : World N) :
    Prop where
  wanes : s.manager.transport.Wanes known w.net w'.net
  tidy : s.manager.Tidy known w'
  thrifty : Thrifty (s.connection.map Connection.session) w w'
  /-- a session that was known before is closed as often as a pass gives it up -/
  counted : ∀ t, known w.net t →
    w'.closings t = w.closings t + (legs.filterMap Leg.dropped?).count t

namespace Spent

theorem refl (h : s.manager.Tidy known w) : s.Spent known w [] w :=
  ⟨.refl _, h, .refl _ w, fun _ _ => rfl⟩

theorem spares (h : s.Spent known w legs u) (hs : s.manager.Spares known u w') :
    s.Spent known w legs w' where
  wanes := h.wanes.trans hs.wanes
  tidy := h.tidy.spares hs
  thrifty := h.thrifty.spares h.tidy hs
  counted t ht := (hs.eq_of_known (h.wanes.stays t ht)).trans (h.counted t ht)

/-- A pass that gives up no session is added. -/
theorem leg (h : s.Spent known w legs w') {leg : Leg} (hleg : leg.dropped? = none) :
    s.Spent known w (legs ++ [leg]) w' where
  wanes := h.wanes
  tidy := h.tidy
  thrifty := h.thrifty
  counted t ht := by
    rw [h.counted t ht, List.filterMap_append, List.filterMap_cons_none hleg]
    simp

/-- A pass that gives up its session is added, and the session is closed. -/
theorem hangUp (h : s.Spent known w legs u) (hl : s.manager.transport.Lawful known)
    (hk : known u.net conn.session) (hkept : u.closings conn.session = w.closings conn.session)
    (hopen : w.closings conn.session = 0 ∨
      s.connection.map Connection.session = some conn.session) :
    s.Spent known w (legs ++ [⟨conn, some (.ok .reconnect)⟩])
      (s.manager.transport.hangUp conn.session u).2 where
  wanes := h.wanes.trans (hl.close conn.session u.net)
  tidy := h.tidy.hangUp hl hk
  thrifty := h.thrifty.hangUp hkept hopen
  counted t ht := by
    have hdropped : [Leg.mk conn (some (.ok .reconnect))].filterMap Leg.dropped? =
        [conn.session] := rfl
    rw [closings_hangUp, h.counted t ht, List.filterMap_append, hdropped, List.count_append,
      List.count_singleton, Nat.add_assoc]
    simp only [beq_iff_eq]

end Spent

variable (s) in
/-- what carries this from stage to stage -/
structure Sparing (known : N → SessionId → Prop) (w : World N) (legs : List Leg)
    (a : Stage N O) : Prop where
  held : s.Held known a
  spent : s.Spent known w legs a.world
  /-- the session of the next pass was not closed by the search -/
  kept : a.world.closings a.conn.session = w.closings a.conn.session
  /-- and not before, unless it was given -/
  unclosed : w.closings a.conn.session = 0 ∨
    s.connection.map Connection.session = some a.conn.session

theorem spares_of_sent (hnet : s.manager.transport.Wanes known w.net v.net) {session : SessionId}
    {pass rest : List Event} (hpass : Sent session request pass)
    (hrest : rest.filterMap Event.closed? = []) (hv : v.events = w.events ++ (pass ++ rest)) :
    s.manager.Spares known w v := by
  refine .quiet hnet _ (World.log_of_events hv) ?_
  rw [List.filterMap_reverse, List.filterMap_append, hpass.closed?_eq_nil, hrest]
  rfl

theorem spares_wait (failures : UInt32) (w : World N) :
    s.manager.Spares known w (s.wait failures w).2 := .quiet (.refl _) [_] rfl rfl

section
variable (hl : s.manager.transport.Lawful known)
include hl

theorem Passed.spares (h : s.Passed request conn p w r q v) : s.manager.Spares known w v := by
  obtain ⟨pass, objects, hevents, hsent, -⟩ := h.left
  exact spares_of_sent (Manager.wanes_of_work hl h.work) hsent rfl hevents

/-- What is done after a pass closes the session of the pass if it is to be connected again, and
spares all others. -/
theorem spares_of_after {failures : UInt32} {o : Except ClientError PassOutcome} {t : Turn}
    (h : s.after base failures conn o q v = ((t, p'), w')) :
    (o ≠ .ok .reconnect ∧ s.manager.Spares known v w') ∨
      (o = .ok .reconnect ∧
        s.manager.Spares known (s.manager.transport.hangUp conn.session v).2 w') := by
  rcases o with e | (_ | _ | _ | referral)
  · cases h
    exact .inl ⟨nofun, .refl _⟩
  · cases h
    exact .inl ⟨nofun, .refl _⟩
  · cases h
    exact .inl ⟨nofun, spares_wait failures v⟩
  · rw [after_reconnect base failures conn q rfl] at h
    obtain ⟨-, rfl⟩ := Prod.mk.inj h
    have hresolve := s.fetches_resolve base q.lastReferral
      (s.wait failures (s.manager.transport.hangUp conn.session v).2).2
    exact .inr ⟨rfl, (spares_wait failures _).trans (spares_of_fetches hl hresolve)⟩
  · rw [after_referral] at h
    obtain ⟨-, rfl⟩ := Prod.mk.inj h
    exact .inl ⟨nofun, spares_of_fetches hl (s.fetches_connectReferral referral v)⟩

/-- Whatever becomes of it, a turn closes the session of its pass if the pass gives it up, and
nothing else that was known. -/
theorem Sparing.turn (ha : s.Sparing known w legs a)
    (h : s.Turns base request a.failures a.conn a.progress a.world r p' w') :
    s.Spent known w (legs ++ [⟨a.conn, some r.outcome⟩]) w' := by
  obtain ⟨q, v, hpassed, hafter⟩ := h.exists_passed
  have hpass := hpassed.spares hl
  have hv := ha.spent.spares hpass
  rcases spares_of_after hl hafter with ⟨ho, hs⟩ | ⟨ho, hs⟩
  · refine (hv.leg ?_).spares hs
    exact if_neg fun he => ho (Option.some.inj he)
  · rw [ho]
    have hkept := (hpass.eq_of_known ha.held.session).trans ha.kept
    exact (hv.hangUp hl (hpass.wanes.stays _ ha.held.session) hkept ha.unclosed).spares hs

/-- The next pass runs on the same session, or on one that was not closed. -/
theorem Onward.unclosed {failures failures' : UInt32} {conn' : Connection}
    {last : Option Referral} {x : PassOutcome}
    (h : s.Onward base failures conn last v x failures' conn' w') (hv : s.manager.Tidy known v)
    (hk : known v.net conn.session) :
    w'.closings conn'.session = 0 ∨
      conn' = conn ∧ w'.closings conn.session = v.closings conn.session := by
  cases h with
  | repeated => exact .inr ⟨rfl, (spares_wait failures v).eq_of_known hk⟩
  | reconnected h =>
    obtain ⟨u, hfind, hconn⟩ := finding_of_resolve h
    have hwait := (hv.hangUp hl hk).spares (spares_wait failures _)
    exact .inl (hconn.unclosed hl (hwait.spares (spares_of_fetches hl hfind.fetches)))
  | referred h =>
    obtain ⟨u, hfind, hconn⟩ := finding_of_connectReferral base h
    exact .inl (hconn.unclosed hl (hv.spares (spares_of_fetches hl hfind.fetches)))

theorem Sparing.next (ha : s.Sparing known w legs a) (h : s.Next base request a r b) :
    s.Sparing known w (legs ++ [⟨a.conn, some r.outcome⟩]) b := by
  have hspent := ha.turn hl h.turns
  have hheld := (ha.held.next hl h).1
  obtain ⟨v, x, hpassed, -, honward⟩ := h.turns.exists_onward h.again
  have hpass := hpassed.spares hl
  rcases honward.unclosed hl (ha.spent.tidy.spares hpass)
    (hpass.wanes.stays _ ha.held.session) with hzero | ⟨hconn, he⟩
  · have hzero' := hspent.thrifty.unclosed hzero
    exact ⟨hheld, hspent, by rw [hzero, hzero'], .inl hzero'⟩
  · refine ⟨hheld, hspent, ?_, ?_⟩
    · rw [hconn, he, hpass.eq_of_known ha.held.session, ha.kept]
    · rw [hconn]
      exact ha.unclosed

section
variable (hgiven : ∀ conn, s.connection = some conn → known w.net conn.session)
  (hw : s.manager.SessionInv known w) (htidy : s.manager.Tidy known w)
include hgiven hw htidy

theorem Starts.sparing (h : s.Starts base p w a) : s.Sparing known w [] a := by
  have hspent := (Spent.refl htidy).spares (spares_of_fetches hl h.fetches)
  have hheld := h.held hl hgiven hw
  rcases h.cases with ⟨hs, hworld⟩ | ⟨-, u, hfind, hconn⟩
  · exact ⟨hheld, hspent, by rw [hworld], .inr (by rw [hs]; rfl)⟩
  · have hzero := hconn.unclosed hl (htidy.spares (spares_of_fetches hl hfind.fetches))
    have hzero' := hspent.thrifty.unclosed hzero
    exact ⟨hheld, hspent, by rw [hzero, hzero'], .inl hzero'⟩

theorem Reaches.sparing (h : s.Reaches base request p w legs a) : s.Sparing known w legs a := by
  induction h with
  | first h => exact h.sparing hl hgiven hw htidy
  | next h hr ih => exact ih.next hl hr

/-- **A search closes a session that was known before as often as one of its passes gives it up, and
that is once at most; it closes none that was closed before unless it was given that one.** -/
theorem Walks.spent (h : s.Walks base request p w legs answer p' w') :
    s.Spent known w legs w' := by
  cases h with
  | unconnected h =>
    have hfetch := s.fetches_firstConnection base w
    rw [h] at hfetch
    exact (Spent.refl htidy).spares (spares_of_fetches hl hfetch)
  | exhausted h ha => exact (h.sparing hl hgiven hw htidy).spent
  | finished h ht hr => exact (h.sparing hl hgiven hw htidy).turn hl ht
  | resting h => exact (h.sparing hl hgiven hw htidy).spent
  | @cut legs a fuel p' w' h hpass =>
    obtain ⟨new, hlog, hsent⟩ := (s.sent_of_pass request a.conn.session fuel _).of_eq hpass
    have hevents : w'.events = a.world.events ++ (new.reverse ++ []) := by
      rw [World.events_of_log hlog, List.append_nil]
    have hspares := spares_of_sent (Manager.wanes_of_work hl (work_of_pass hpass)) hsent rfl hevents
    exact ((h.sparing hl hgiven hw htidy).spent.spares hspares).leg rfl

end

end

end Search

/-! ## Histories -/

/-- the connection that a search is given -/
def Operation.connection? : Operation → Option Connection
  | .search _ _ _ conn _ _ _ _ _ _ => conn
  | _ => none

namespace Manager

variable {N : Type} (m : Manager N) (known : N → SessionId → Prop)

/-- Operations one after another, each with the world that it begins in.  A connection that a search
is given was opened at some time; in between the network may lose sessions. -/
inductive History : List (World N × Operation) → World N → Prop
  | start {registry : Registry} (h : Registry.ofConfig m.schema m.config = .ok registry)
      (net : N) (chance : Nat → Nat) : History [] { net, registry, chance }
  | perform {ops : List (World N × Operation)} {w : World N} (h : History ops w) (op : Operation)
      (hop : ∀ conn, op.connection? = some conn → known w.net conn.session) :
      History (ops ++ [(w, op)]) (m.perform op w)
  | drift {ops : List (World N × Operation)} {w : World N} (h : History ops w) (net : N)
      (hd : m.transport.Wanes known w.net net) : History ops { w with net := net }

/-- a search that is given a connection of which a pass gives up the session -/
def GivesUp (v : World N) : Operation → SessionId → Prop
  | .search options classifier consumer (some conn) p base filter scope attributes fuel, s =>
    let search := m.searching options classifier consumer (some conn)
    let result := search.run base filter scope attributes fuel p v
    conn.session = s ∧ ∃ legs,
      search.Walks base (options.request base filter scope attributes) p v legs result.1.1
        result.1.2 result.2 ∧
      s ∈ legs.filterMap Leg.dropped?
  | _, _ => False

/-- A session that was closed before is closed again by an operation: by closing everything if it is
still stored, or by a search that was given it and gives it up. -/
def Recloses (v : World N) (op : Operation) (s : SessionId) : Prop :=
  0 < v.closings s ∧ (op = .close ∧ s ∈ v.registry.sessions ∨ m.GivesUp v op s)

/-- what an operation does to the sessions -/
structure Retires (v : World N) (op : Operation) : Prop where
  tidy : m.Tidy known (m.perform op v)
  each : ∀ s, (m.perform op v).closings s = v.closings s ∨
    (m.perform op v).closings s = v.closings s + 1 ∧ (v.closings s = 0 ∨ m.Recloses v op s)

/-- how often sessions were closed in the course of a history -/
structure Tally (ops : List (World N × Operation)) (w : World N) : Prop where
  /-- no operation closes a session twice -/
  once : ∀ v op, (v, op) ∈ ops → ∀ s, (m.perform op v).closings s ≤ v.closings s + 1
  /-- a session is closed twice if some operation closes it again, and only then -/
  again : ∀ s, 2 ≤ w.closings s ↔ ∃ v op, (v, op) ∈ ops ∧ m.Recloses v op s

variable {m known} {ops : List (World N × Operation)} {w : World N}

theorem History.reachable (h : m.History known ops w) :
    m.Reachable (m.transport.Wanes known) w := by
  induction h with
  | start h net chance => exact .start h net chance
  | perform _ op _ ih => exact .perform ih op
  | drift _ net hd ih => exact .drift ih net hd

namespace Retires

variable {op : Operation}

theorem le (h : m.Retires known w op) (s : SessionId) :
    w.closings s ≤ (m.perform op w).closings s := by
  rcases h.each s with he | ⟨he, -⟩ <;> omega

theorem le_succ (h : m.Retires known w op) (s : SessionId) :
    (m.perform op w).closings s ≤ w.closings s + 1 := by
  rcases h.each s with he | ⟨he, -⟩ <;> omega

end Retires

section
variable (hl : m.transport.Lawful known)
include hl

theorem retires_of_fetching (htidy : m.Tidy known w) {op : Operation} (h : op.IsFetching) :
    m.Retires known w op := by
  have hspares := spares_of_fetches hl (fetches_perform h w)
  refine ⟨htidy.spares hspares, fun s => (hspares.closings s).imp_right ?_⟩
  rintro ⟨hn, -, -, he⟩
  exact ⟨he, .inl (htidy.unclosed_of_unknown hn)⟩

theorem retires_close (hw : m.SessionInv known w) (htidy : m.Tidy known w) :
    m.Retires known w .close := by
  refine ⟨htidy.close hl hw, fun s => ?_⟩
  have he := closings_close hw s
  split at he
  · rename_i hs
    exact .inr ⟨he, (Nat.eq_zero_or_pos _).imp_right fun hpos => ⟨hpos, .inl ⟨rfl, hs⟩⟩⟩
  · exact .inl he

section
variable (hw : m.SessionInv known w) (htidy : m.Tidy known w) {op : Operation}
  (hop : ∀ conn, op.connection? = some conn → known w.net conn.session)
include hw htidy hop

theorem retires_perform : m.Retires known w op := by
  cases op with
  | close => exact retires_close hl hw htidy
  | search options classifier consumer conn p base filter scope attributes fuel =>
    obtain ⟨legs, hwalks⟩ := (m.searching options classifier consumer conn).walks_run base filter
      scope attributes fuel p w
    have hspent := hwalks.spent hl hop hw htidy
    refine ⟨hspent.tidy, fun s => (hspent.thrifty s).imp_right ?_⟩
    rintro ⟨he, hopen⟩
    refine ⟨he, (Nat.eq_zero_or_pos _).imp_right fun hpos => ⟨hpos, .inr ?_⟩⟩
    -- it was closed before, so it is the session that was given
    have hgiven := hopen.resolve_left (Nat.ne_of_gt hpos)
    cases conn with
    | none => cases hgiven
    | some conn =>
      have hs : conn.session = s := Option.some.inj hgiven
      have hcount := hspent.counted s (hs ▸ hop conn rfl)
      rw [show _ = w.closings s + 1 from he] at hcount
      exact ⟨hs, legs, hwalks, List.count_pos_iff.mp (by omega)⟩
  | _ => exact retires_of_fetching hl htidy trivial

theorem Recloses.two_le {s : SessionId} (h : m.Recloses w op s) :
    2 ≤ (m.perform op w).closings s := by
  obtain ⟨hpos, ⟨rfl, hs⟩ | hgives⟩ := h
  · have he := closings_close hw s
    rw [if_pos hs] at he
    show 2 ≤ (m.close w).2.closings s
    omega
  · cases op with
    | search options classifier consumer conn p base filter scope attributes fuel =>
      cases conn with
      | none => exact hgives.elim
      | some conn =>
        obtain ⟨rfl, legs, hwalks, hmem⟩ := hgives
        have hcount := (hwalks.spent hl hop hw htidy).counted conn.session (hop conn rfl)
        have hone := List.count_pos_iff.mpr hmem
        show 2 ≤ World.closings (Prod.snd _) conn.session
        omega
    | _ => exact hgives.elim

end

theorem History.tidy (h : m.History known ops w) : m.Tidy known w := by
  induction h with
  | @start registry h net chance =>
    intro s hpos
    rw [World.closings_start] at hpos
    omega
  | perform h op hop ih => exact (retires_perform hl (h.reachable.sessionInv hl) ih hop).tidy
  | drift h net hd ih => exact ih.spares (.quiet hd [] rfl rfl)

theorem Tally.perform (ht : m.Tally ops w) (h : m.History known ops w) (op : Operation)
    (hop : ∀ conn, op.connection? = some conn → known w.net conn.session) :
    m.Tally (ops ++ [(w, op)]) (m.perform op w) := by
  have hw := h.reachable.sessionInv hl
  have hstep := retires_perform hl hw (h.tidy hl) hop
  refine ⟨fun v o hm s => ?_, fun s => ⟨fun htwo => ?_, ?_⟩⟩
  · rcases List.mem_append.mp hm with hm | hm
    · exact ht.once v o hm s
    · obtain ⟨rfl, rfl⟩ := Prod.mk.inj (List.mem_singleton.mp hm)
      exact hstep.le_succ s
  · rcases hstep.each s with he | ⟨he, hzero | hr⟩
    · obtain ⟨v, o, hm, hr⟩ := (ht.again s).mp (he ▸ htwo)
      exact ⟨v, o, List.mem_append_left _ hm, hr⟩
    · -- its first time
      omega
    · exact ⟨w, op, List.mem_append_right _ (List.mem_singleton_self _), hr⟩
  · rintro ⟨v, o, hm, hr⟩
    rcases List.mem_append.mp hm with hm | hm
    · exact ((ht.again s).mpr ⟨v, o, hm, hr⟩).trans (hstep.le s)
    · obtain ⟨rfl, rfl⟩ := Prod.mk.inj (List.mem_singleton.mp hm)
      exact hr.two_le hl hw (h.tidy hl) hop

/-- **A session is closed twice exactly if some operation closes it again: closing everything, if the
session is still stored although it was closed, or a search that was given it.** -/
theorem tally_of_history (h : m.History known ops w) : m.Tally ops w := by
  induction h with
  | start h net chance =>
    refine ⟨fun v op hm => absurd hm List.not_mem_nil, fun s => ⟨fun htwo => ?_, ?_⟩⟩
    · rw [World.closings_start] at htwo
      omega
    · rintro ⟨v, op, hm, -⟩
      cases hm
  | perform h op hop ih => exact ih.perform hl h op hop
  | drift h net hd ih => exact ⟨ih.once, ih.again⟩

end

end Manager

namespace Scripted

/-- a server that a referral names, which breaks off its first search -/
def failing : Network where
  hosts := [("r1:389", { scripts := [.stream [.failure .endOfStream false .none] none] })]

def joining : Operation := .connectionForReferral ⟨["ldap://r1/"]⟩

/-- a search that is given the connection at that server -/
def wandering : Operation :=
  .search { retry := .immediate } .standard (⟨.ok, fun _ => true⟩ : Consumer Entry)
    (some ⟨1, ⟨1⟩⟩) {} Dn.root "(objectClass=*)" .subtree [] 5

def joined : World Network := client.perform joining (started failing)

/-- The search goes on at the default server. -/
def strayed : World Network := client.perform wandering joined

def swept : World Network := client.perform .close strayed

def story : List (World Network × Operation) :=
  [(started failing, joining), (joined, wandering), (strayed, .close)]

theorem history_swept : client.History Known story swept := by
  have hjoined : client.History Known [(started failing, joining)] joined :=
    .perform (.start ofConfig_client failing _) joining nofun
  have hstrayed : client.History Known [(started failing, joining), (joined, wandering)]
      strayed := by
    refine .perform hjoined wandering fun conn hconn => ?_
    obtain rfl : Connection.mk 1 ⟨1⟩ = conn := Option.some.inj hconn
    show (joined.net.session? ⟨1⟩).isSome = true
    decide +kernel
  exact .perform hstrayed .close nofun

/-- The session that the search gave up is still stored, and closing everything closes it again. -/
theorem tally_of_history_swept :
    client.transport.Lawful Known ∧ client.History Known story swept ∧
      client.Recloses strayed .close ⟨1⟩ ∧ client.Tally story swept := by
  have hclosed : 0 < strayed.closings ⟨1⟩ := by decide +kernel
  have hstored : ⟨1⟩ ∈ strayed.registry.sessions := by decide +kernel
  exact ⟨lawful, history_swept, ⟨hclosed, .inl ⟨rfl, hstored⟩⟩,
    Manager.tally_of_history lawful history_swept⟩

/-- A session is closed twice. -/
theorem closed_twice : client.transport.Lawful Known ∧ client.History Known story swept ∧
    story.map (fun step => step.1.closings ⟨1⟩) = [0, 0, 1] ∧ swept.closings ⟨1⟩ = 2 := by
  exact ⟨lawful, history_swept, by decide +kernel, by decide +kernel⟩

end Scripted

end DirectoryClient
