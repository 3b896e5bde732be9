import DirectoryClient.Proofs.Run.Handout
import DirectoryClient.Proofs.Search.Annals

/-!
# Where the passes of a search run

* `Manager.Belongs`     whether a server is one that a search may go to;
* `finding_of_resolve`, `finding_of_connectReferral`, `Starts.cases`   how a search comes by its
                        connections;
* `Search.Held`         the session of the next pass is known, and the sessions are kept;
* `Search.Placed`       where each pass runs, by what the pass before came to;
* `placed_of_run`       every search is so, finished or not.
-/

namespace DirectoryClient

open Relation

namespace Manager

variable {N : Type} {m : Manager N} {known : N → SessionId → Prop} {u v w w' : World N}
  {base : Dn} {last : Option Referral} {conn : Connection}

variable (m) in
/-- A referral that was followed names the server; without one it is a server for the base name,
by some draw. -/
def Belongs (base : Dn) (last : Option Referral) (w w' : World N) (i : Nat) : Prop :=
  match last with
  | none => ∃ draw, w.registry.route base draw = i
  | some referral => w'.registry.Named m.schema referral i

theorem Finding.belongs (h : m.Finding base last v conn.server u)
    (hc : m.Connecting conn.server u (.ok conn.session) w')
    (hreg : v.registry = w.registry) : m.Belongs base last w w' conn.server := by
  cases h with
  | named h =>
    have hroute := select_apply base v
    rw [h, hreg] at hroute
    exact ⟨_, hroute.symm⟩
  | @referred referral text url _ _ _ ht hp h =>
    have hfound := Registry.find?_enrol (World.draw v).2.registry m.schema url
    rw [← selectForUrl_apply, ← registry_selectForUrl, h] at hfound
    refine ⟨text, ht, url, hp, Registry.find?_of_prefix ⟨[], ?_⟩ hfound⟩
    rw [List.append_nil, hc.records]

theorem Finding.handedOut (hl : m.transport.Lawful known)
    (h : m.Finding base last v conn.server u)
    (hc : m.Connecting conn.server u (.ok conn.session) w') (hv : m.SessionInv known v)
    {new : List Event} (hlog : v.log = new ++ w.log) : m.HandedOut w w' conn := by
  obtain ⟨found, hfound⟩ := h.exists_log
  have hout := hc.handedOut (hv.works hl h.work) h.lt_size
  exact (hout.since hfound).since hlog

end Manager

namespace Search

variable {N O : Type} {s : Search N O} {known : N → SessionId → Prop} {base : Dn}
  {request : SearchRequest} {p p' : Progress O} {w w' v : World N} {legs : List Leg}
  {a b : Stage N O} {r : Round} {conn : Connection} {answer : Option (Except ClientError Unit)}

/-! ## How a search comes by its connections -/

theorem finding_of_connectReferral (base : Dn) {referral : Referral}
    (h : s.connectReferral referral v = (.ok conn, w')) :
    ∃ u, s.manager.Finding base (some referral) v conn.server u ∧
      s.manager.Connecting conn.server u (.ok conn.session) w' := by
  rcases hx : s.manager.connectionForReferral referral v with ⟨e | (_ | conn'), v'⟩ <;>
    simp only [connectReferral, Act.bind_apply, hx] at h
  · cases h
  · cases h
  · obtain ⟨he, rfl⟩ := Prod.mk.inj h
    obtain rfl := Except.ok.inj he
    exact Manager.finding_of_referral base hx

theorem finding_of_resolve {last : Option Referral}
    (h : s.resolve base last v = (.ok conn, w')) :
    ∃ u, s.manager.Finding base last v conn.server u ∧
      s.manager.Connecting conn.server u (.ok conn.session) w' := by
  cases last with
  | none => exact Manager.finding_of_connection h
  | some referral => exact finding_of_connectReferral base h

/-- The first connection was given, or a server is found for the base name. -/
theorem Starts.cases (h : s.Starts base p w a) :
    (s.connection = some a.conn ∧ a.world = w) ∨
    (s.connection = none ∧ ∃ u, s.manager.Finding base none w a.conn.server u ∧
      s.manager.Connecting a.conn.server u (.ok a.conn.session) a.world) := by
  have hfirst := h.connected
  cases hs : s.connection with
  | some conn =>
    simp only [firstConnection, hs] at hfirst
    obtain ⟨he, hworld⟩ := Prod.mk.inj hfirst
    exact .inl ⟨by rw [Except.ok.inj he], hworld.symm⟩
  | none =>
    simp only [firstConnection, hs] at hfirst
    exact .inr ⟨rfl, finding_of_resolve hfirst⟩

/-! ## Sessions along a search -/

variable (s) in
/-- what carries the places of passes from stage to stage -/
structure Held (known : N → SessionId → Prop) (a : Stage N O) : Prop where
  sessions : s.manager.SessionInv known a.world
  session : known a.world.net a.conn.session

/-- Between the end of a pass that lost its session and the search for the next one. -/
theorem lost_of_wait (hl : s.manager.transport.Lawful known) (failures : UInt32)
    (session : SessionId) (v : World N) :
    ReflTransGen s.manager.Work v (s.wait failures (s.manager.transport.hangUp session v).2).2 ∧
      s.manager.transport.isConnected session
        (s.wait failures (s.manager.transport.hangUp session v).2).2.net = false := by
  refine ⟨?_, hl.closed session v.net⟩
  exact .head (.move (.hangUp session v)) (.head (.move (.draw _)) (.single (.move (.pause _ _ _))))

section
variable (hl : s.manager.transport.Lawful known)
  (hgiven : ∀ conn, s.connection = some conn → known w.net conn.session)
include hl

include hgiven in
theorem Starts.held (h : s.Starts base p w a) (hw : s.manager.SessionInv known w) :
    s.Held known a := by
  have hsessions := hw.works hl (Manager.work_of_fetches h.fetches)
  refine ⟨hsessions, ?_⟩
  rcases h.cases with ⟨hs, hworld⟩ | ⟨-, u, hfind, hconn⟩
  · rw [hworld]
    exact hgiven _ hs
  · exact (hfind.handedOut hl hconn hw (List.nil_append w.log).symm).known_session hsessions

/-- Where the next pass runs. -/
theorem Onward.placed {failures failures' : UInt32} {conn' : Connection}
    {last : Option Referral} {x : PassOutcome}
    (h : s.Onward base failures conn last v x failures' conn' w')
    (hv : s.manager.SessionInv known v) (hk : known v.net conn.session)
    {new : List Event} (hlog : v.log = new ++ w.log) (hreg : v.registry = w.registry) :
    (x = .retrySameServer ∧ conn' = conn) ∨
    (x = .reconnect ∧ conn'.session ≠ conn.session ∧ s.manager.HandedOut w w' conn' ∧
      s.manager.Belongs base last w w' conn'.server) ∨
    ∃ referral, x = .followReferral referral ∧ s.manager.HandedOut w w' conn' ∧
      s.manager.Belongs base (some referral) w w' conn'.server := by
  cases h with
  | repeated => exact .inl ⟨rfl, rfl⟩
  | reconnected h =>
    obtain ⟨u, hfind, hconn⟩ := finding_of_resolve h
    obtain ⟨hwait, hlost⟩ := lost_of_wait hl failures conn.session v
    obtain ⟨gap, hgap⟩ : ∃ gap,
        (s.wait failures (s.manager.transport.hangUp conn.session v).2).2.log = gap ++ v.log :=
      ⟨[_, _], rfl⟩
    have hknown := (Manager.wanes_of_work hl hwait).stays _ hk
    have hwanes := Manager.wanes_of_work hl hfind.work
    have hne := hconn.ne_of_lost hl (hwanes.stays _ hknown) (hwanes.lost hknown hlost)
    have hlog' : (s.wait failures (s.manager.transport.hangUp conn.session v).2).2.log =
        (gap ++ new) ++ w.log := by rw [hgap, hlog, List.append_assoc]
    have hout := hfind.handedOut hl hconn (hv.works hl hwait) hlog'
    exact .inr (.inl ⟨rfl, hne, hout, hfind.belongs hconn hreg⟩)
  | @referred referral _ _ h =>
    obtain ⟨u, hfind, hconn⟩ := finding_of_connectReferral base h
    refine .inr (.inr ⟨referral, rfl, ?_, hfind.belongs hconn hreg⟩)
    exact hfind.handedOut hl hconn hv hlog

/-- Where the next pass runs, and that its session is known. -/
theorem Held.next (ha : s.Held known a) (h : s.Next base request a r b) :
    s.Held known b ∧
    ((r.outcome = .ok .retrySameServer ∧ b.conn = a.conn) ∨
     (r.outcome = .ok .reconnect ∧ b.conn.session ≠ a.conn.session ∧
        s.manager.HandedOut a.world b.world b.conn ∧
        s.manager.Belongs base b.progress.lastReferral a.world b.world b.conn.server) ∨
     ∃ referral, r.outcome = .ok (.followReferral referral) ∧
        s.manager.HandedOut a.world b.world b.conn ∧
        s.manager.Belongs base (some referral) a.world b.world b.conn.server) := by
  have hb : s.manager.SessionInv known b.world := ha.sessions.works hl h.turns.work
  have hknown := (Manager.wanes_of_work hl h.turns.work).stays _ ha.session
  obtain ⟨v, x, hpassed, hx, honward⟩ := h.turns.exists_onward h.again
  obtain ⟨pass, objects, hevents, -⟩ := hpassed.left
  have hlog := World.log_of_events hevents
  have hplaced := honward.placed hl (ha.sessions.works hl hpassed.work)
    ((Manager.wanes_of_work hl hpassed.work).stays _ ha.session) hlog hpassed.registry
  rw [hx]
  rcases hplaced with ⟨rfl, hconn⟩ | ⟨rfl, hne, hout, hbelongs⟩ | ⟨referral, rfl, hout, hbelongs⟩
  · exact ⟨⟨hb, by rwa [hconn]⟩, .inl ⟨rfl, hconn⟩⟩
  · exact ⟨⟨hb, hout.known_session hb⟩, .inr (.inl ⟨rfl, hne, hout, hbelongs⟩)⟩
  · exact ⟨⟨hb, hout.known_session hb⟩, .inr (.inr ⟨referral, rfl, hout, hbelongs⟩)⟩

include hgiven in
theorem Reaches.held (h : s.Reaches base request p w legs a) (hw : s.manager.SessionInv known w) :
    s.Held known a := by
  induction h with
  | first h => exact h.held hl hgiven hw
  | next h hr ih => exact (ih.next hl hr).1

/-! ## Where the passes run -/

variable (s) in
/-- Where the next pass runs, after a pass on the connection of a stage and those before it. -/
structure Followed (base : Dn) (request : SearchRequest) (legs : List Leg) (a : Stage N O)
    (r : Round) (b : Stage N O) : Prop where
  /-- on the same connection, with a pause and nothing else in between -/
  repeated : r.outcome = .ok .retrySameServer → b.conn = a.conn ∧ ∃ pass draw,
    Sent a.conn.session request pass ∧
    b.world.events = a.world.events ++ (pass ++
      [.passed r.ending, .pause a.failures (s.options.retry.delay a.failures draw)])
  /-- on another session, for which a server is found as the last referral says that was followed;
  before that the session that failed is closed -/
  reconnected : r.outcome = .ok .reconnect → b.conn.session ≠ a.conn.session ∧
    s.manager.HandedOut a.world b.world b.conn ∧
    s.manager.Belongs base (lastFollowed legs) a.world b.world b.conn.server ∧
    ∃ pass answer draw gap, Sent a.conn.session request pass ∧ Fetched gap ∧
      b.world.events = a.world.events ++ (pass ++ .passed r.ending ::
        .close a.conn.session answer ::
          .pause a.failures (s.options.retry.delay a.failures draw) :: gap)
  /-- on a session of a server that the referral names -/
  referred : ∀ referral, r.outcome = .ok (.followReferral referral) →
    s.manager.HandedOut a.world b.world b.conn ∧
    s.manager.Belongs base (some referral) a.world b.world b.conn.server ∧
    ∃ pass gap, Sent a.conn.session request pass ∧ Fetched gap ∧
      b.world.events = a.world.events ++ (pass ++ .passed r.ending :: gap)
  /-- no other pass is followed by one -/
  only : r.outcome = .ok .retrySameServer ∨ r.outcome = .ok .reconnect ∨
    ∃ referral, r.outcome = .ok (.followReferral referral)

variable (s) in
structure Placed (base : Dn) (request : SearchRequest) (p : Progress O) (w : World N) : Prop where
  /-- the first pass runs on the connection that was given, or else on one to a server of the base
  name -/
  first : ∀ a, s.Starts base p w a →
    (s.connection = some a.conn ∧ a.world = w) ∨
    (s.connection = none ∧ a.conn.server = (Manager.select base w).1 ∧
      s.manager.HandedOut w a.world a.conn)
  next : ∀ legs a r b, s.Reaches base request p w legs a → s.Next base request a r b →
    s.Followed base request legs a r b

theorem Starts.placed (h : s.Starts base p w a) (hw : s.manager.SessionInv known w) :
    (s.connection = some a.conn ∧ a.world = w) ∨
    (s.connection = none ∧ a.conn.server = (Manager.select base w).1 ∧
      s.manager.HandedOut w a.world a.conn) := by
  rcases h.cases with hgiven | ⟨hs, u, hfind, hconn⟩
  · exact .inl hgiven
  · refine .inr ⟨hs, ?_, hfind.handedOut hl hconn hw (List.nil_append w.log).symm⟩
    cases hfind with
    | named h => exact (congrArg Prod.fst h).symm

theorem Held.followed (ha : s.Held known a) (hreach : s.Reaches base request p w legs a)
    (h : s.Next base request a r b) : s.Followed base request legs a r b := by
  obtain ⟨pass, gap, hevents, hsent, -, hinter⟩ := h.turns.exists_events
  rcases (ha.next hl h).2 with ⟨ho, hconn⟩ | ⟨ho, hne, hout, hbelongs⟩ |
      ⟨referral, ho, hout, hbelongs⟩ <;> rw [ho] at hinter
  · refine ⟨fun _ => ⟨hconn, ?_⟩, fun h => absurd (ho.symm.trans h) nofun,
      fun _ h => absurd (ho.symm.trans h) nofun, .inl ho⟩
    cases hinter with
    | repeated draw => exact ⟨pass, draw, hsent, hevents⟩
  · refine ⟨fun h => absurd (ho.symm.trans h) nofun, fun _ => ⟨hne, hout, ?_, ?_⟩,
      fun _ h => absurd (ho.symm.trans h) nofun, .inr (.inl ho)⟩
    · have hlast := (hreach.noted.next h).lastReferral
      rw [lastFollowed_append, ho] at hlast
      rwa [hlast] at hbelongs
    · cases hinter with
      | @reconnected answer draw gap hgap =>
        exact ⟨pass, answer, draw, gap, hsent, hgap, hevents⟩
  · refine ⟨fun h => absurd (ho.symm.trans h) nofun, fun h => absurd (ho.symm.trans h) nofun,
      fun referral' h => ?_, .inr (.inr ⟨referral, ho⟩)⟩
    obtain rfl : referral = referral' :=
      PassOutcome.followReferral.inj (Except.ok.inj (ho.symm.trans h))
    refine ⟨hout, hbelongs, ?_⟩
    cases hinter with
    | referred _ hgap => exact ⟨pass, gap, hsent, hgap, hevents⟩

end

/-- **Each pass of a search runs where the outcome of the pass before sends it.**  Every pass sends
the same request; the sessions that the search closes are those of the passes after which it connects
again, each time once, and those that could not be bound. -/
theorem placed_of_run (hl : s.manager.transport.Lawful known)
    (hw : s.manager.Reachable (s.manager.transport.Wanes known) w)
    (hgiven : ∀ conn, s.connection = some conn → known w.net conn.session) (base : Dn)
    (filter : String) (scope : Scope) (attributes : List String) (fuel : Nat) (p : Progress O) :
    s.Placed base (s.options.request base filter scope attributes) p w ∧
    ∃ legs new, s.Walks base (s.options.request base filter scope attributes) p w legs
        (s.run base filter scope attributes fuel p w).1.1
        (s.run base filter scope attributes fuel p w).1.2
        (s.run base filter scope attributes fuel p w).2 ∧
      (s.run base filter scope attributes fuel p w).2.events = w.events ++ new ∧
      (new.filterMap Event.sent? = legs.map fun leg =>
        (leg.conn.session, s.options.request base filter scope attributes)) ∧
      (new.filterMap Event.closed?).Perm
        (legs.filterMap Leg.dropped? ++ new.filterMap Event.rejected?) := by
  have hsessions := hw.sessionInv hl
  refine ⟨⟨fun a h => h.placed hl hsessions, fun legs a r b hreach h => ?_⟩, ?_⟩
  · exact (hreach.held hl hgiven hsessions).followed hl hreach h
  · obtain ⟨legs, hwalks⟩ := s.walks_run base filter scope attributes fuel p w
    obtain ⟨new, done, hevents, hannals, -⟩ := hwalks.exists_annals
    exact ⟨legs, new, hwalks, hevents, hannals.sent_eq, hannals.closings⟩

end Search

namespace Scripted

/-- a search that takes what it gets -/
def steadfast : Search Network Entry where
  manager := client
  options := { retry := .immediate }
  classifier := .standard
  consumer := ⟨.ok, fun _ => true⟩

def sought : (Option (Except ClientError Unit) × Progress Entry) × World Network :=
  steadfast.run Dn.root "(objectClass=*)" .subtree [] 5 {} (started unsteady)

/-- One pass is repeated, the next one is referred to another server, and its session there fails. -/
theorem placed_of_run_unsteady :
    steadfast.manager.transport.Lawful Known ∧
      client.Reachable (transport.Wanes Known) (started unsteady) ∧
      steadfast.connection = none ∧ sought.1.1 = some (.ok ()) ∧
      steadfast.Placed Dn.root
        (steadfast.options.request Dn.root "(objectClass=*)" .subtree []) {} (started unsteady) ∧
      ∃ legs : List Leg, legs.map (fun leg => leg.conn.session) = [⟨1⟩, ⟨1⟩, ⟨2⟩, ⟨3⟩] ∧
        (legs.filterMap Leg.dropped?).Perm [⟨2⟩] := by
  have hanswer : sought.1.1 = some (.ok ()) := by decide +kernel
  have hsent : (sought.2.events.filterMap Event.sent?).map Prod.fst = [⟨1⟩, ⟨1⟩, ⟨2⟩, ⟨3⟩] := by
    decide +kernel
  have hclosed : sought.2.events.filterMap Event.closed? = [⟨2⟩] := by decide +kernel
  have hrejected : sought.2.events.filterMap Event.rejected? = [] := by decide +kernel
  unfold sought at hanswer hsent hclosed hrejected ⊢
  have hreach := reachable_started (transport.Wanes Known) unsteady
  obtain ⟨hplaced, legs, new, -, hevents, hnew, hperm⟩ :=
    Search.placed_of_run (s := steadfast) lawful hreach nofun Dn.root "(objectClass=*)" .subtree []
      5 {}
  rw [show (started unsteady).events = [] from rfl, List.nil_append] at hevents
  rw [← hevents] at hnew hperm
  refine ⟨lawful, hreach, rfl, hanswer, hplaced, legs, ?_, ?_⟩
  · rw [← hsent, hnew, List.map_map]
    rfl
  · rw [hclosed, hrejected, List.append_nil] at hperm
    exact hperm.symm

end Scripted

end DirectoryClient
