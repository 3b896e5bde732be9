import DirectoryClient.Proofs.Referrals.Unfollowed
import DirectoryClient.Proofs.Scripted.Lawful

/-!
# Searches that stay among known servers

A search that follows no referrals uses the servers it knew when it began.

* `Manager.Stays`      no server joins, no URL is looked up, and servers are dialled as the records
                       say that were there before;
* `Search.stays_after` what is done after a pass;
* `Search.stays_run`   a whole search, by induction on the stages that it reaches;
* `Search.alike_of_run`    that, and the same search on networks that differ in URLs;
* `cautious`           such a search on a network and on the same one with other URLs.
-/

namespace DirectoryClient

open Relation

namespace Manager

variable {N : Type} (m : Manager N)

/-- a line that tells of no server but of those in a registry -/
def Knows (r : Registry) : Event → Prop
  | .located _ _ => False
  | .connect i settings _ => i < r.size ∧ settings = m.settings (r.server i).record
  | _ => True

structure Stays (w w' : World N) : Prop where
  size : w'.registry.size = w.registry.size
  record : ∀ i, (w'.registry.server i).record = (w.registry.server i).record
  log : ∃ new, w'.log = new ++ w.log ∧ ∀ e ∈ new, m.Knows w.registry e

variable {m} {w w' : World N}

theorem Stays.of_registry (hreg : w'.registry = w.registry) {new : List Event}
    (hlog : w'.log = new ++ w.log) (hnew : ∀ e ∈ new, m.Knows w.registry e) : m.Stays w w' where
  size := by rw [hreg]
  record i := by rw [hreg]
  log := ⟨new, hlog, hnew⟩

theorem Stays.refl (w : World N) : m.Stays w w := .of_registry rfl rfl (List.forall_mem_nil _)

theorem Knows.congr {r r' : Registry} (hsize : r'.size = r.size)
    (hrecord : ∀ i, (r'.server i).record = (r.server i).record) {e : Event} (h : m.Knows r' e) :
    m.Knows r e := by
  cases e with
  | connect i settings a =>
    obtain ⟨hi, hsettings⟩ := h
    exact ⟨hsize ▸ hi, hsettings.trans (congrArg m.settings (hrecord i))⟩
  | _ => exact h

theorem Stays.trans {v : World N} (h : m.Stays w v) (h' : m.Stays v w') : m.Stays w w' := by
  obtain ⟨new, hlog, hnew⟩ := h.log
  obtain ⟨new', hlog', hnew'⟩ := h'.log
  refine ⟨h'.size.trans h.size, fun i => (h'.record i).trans (h.record i), new' ++ new, ?_, ?_⟩
  · rw [hlog', hlog, List.append_assoc]
  · intro e he
    rcases List.mem_append.mp he with he | he
    · exact (hnew' e he).congr h.size h.record
    · exact hnew e he

/-- Calls that leave the registry alone and are written down in one line. -/
theorem Stays.line (hreg : w'.registry = w.registry) {e : Event} (hlog : w'.log = e :: w.log)
    (he : m.Knows w.registry e) : m.Stays w w' :=
  .of_registry hreg (show w'.log = [e] ++ w.log from hlog) (List.forall_mem_singleton.mpr he)

theorem Talk.stays (h : m.Talk w w') : m.Stays w w' := by
  cases h <;> exact .line rfl rfl trivial

theorem stays_select (d : Dn) (w : World N) : m.Stays w (select d w).2 := .line rfl rfl trivial

theorem Connecting.stays {i : Nat} {answer : Except ClientError SessionId}
    (h : m.Connecting i w answer w') (hi : i < w.registry.size) : m.Stays w w' := by
  obtain ⟨new, hlog, hnew⟩ := h.exists_log
  refine ⟨h.size, h.record, new, hlog, fun e he => ?_⟩
  rcases hnew e he with rfl | ⟨s, rfl⟩ | ⟨s, a, rfl⟩
  · exact ⟨hi, rfl⟩
  · trivial
  · trivial

theorem stays_connection (d : Dn) (w : World N) : m.Stays w (m.connection d w).2 :=
  (stays_select d w).trans ((m.connectServer_spec _ _).stays (select_lt_size d w))

end Manager

namespace Search

open Manager (Stays)

variable {N O : Type} {s : Search N O} {base : Dn} {request : SearchRequest} {p : Progress O}
  {w w' : World N}

theorem stays_wait (failures : UInt32) (w : World N) :
    s.manager.Stays w (s.wait failures w).2 := .line rfl rfl trivial

theorem stays_hangUp (session : SessionId) (w : World N) :
    s.manager.Stays w (s.manager.transport.hangUp session w).2 := .line rfl rfl trivial

variable (s request) in
theorem stays_pass (session : SessionId) (fuel : Nat) (p : Progress O) (w : World N) :
    s.manager.Stays w (s.pass request session fuel p w).2 := by
  have htalk : ReflTransGen s.manager.Talk w (s.pass request session fuel p w).2 :=
    s.follows_pass request session fuel p w
  generalize (s.pass request session fuel p w).2 = w' at htalk
  induction htalk with
  | refl => exact .refl w
  | tail _ htalk ih => exact ih.trans htalk.stays

variable (s base) in
/-- After a pass no URL is looked up, if no referral is to be followed and none is remembered. -/
theorem stays_after (failures : UInt32) (conn : Connection) {o : Except ClientError PassOutcome}
    (ho : ∀ r, o ≠ .ok (.followReferral r)) (hp : o = .ok .reconnect → p.lastReferral = none)
    (w : World N) : s.manager.Stays w (s.after base failures conn o p w).2 := by
  rcases o with e | (_ | _ | _ | r)
  · exact .refl w
  · exact .refl w
  · exact stays_wait failures w
  · rw [after_reconnect base failures conn p rfl, hp rfl]
    exact ((stays_hangUp conn.session w).trans (stays_wait failures _)).trans
      (Manager.stays_connection base _)
  · exact absurd rfl (ho r)

variable (s base) in
theorem stays_firstConnection (w : World N) :
    s.manager.Stays w (s.firstConnection base w).2 := by
  have hresolve := Manager.stays_connection (m := s.manager) base w
  rw [firstConnection]
  cases s.connection with
  | none => exact hresolve
  | some conn => exact .refl w

theorem Passed.stays {conn : Connection} {r : Round} {q : Progress O} {v : World N}
    (h : s.Passed request conn p w r q v) : s.manager.Stays w v := by
  obtain ⟨pass, objects, hleft, ⟨a, rest, rfl, hread⟩, -⟩ := h.left
  refine .of_registry h.registry (World.log_of_events hleft) fun e he => ?_
  rcases List.mem_append.mp (List.mem_reverse.mp he) with he | he
  · rcases List.mem_cons.mp he with rfl | he
    · trivial
    · have hreading := hread e he
      cases e with
      | located url i => exact hreading
      | connect i settings a => exact absurd hreading id
      | _ => trivial
  · obtain rfl := List.mem_singleton.mp he
    trivial

section
variable (hs : s.options.referralStrategy ≠ .follow)
include hs

theorem Turns.stays {failures : UInt32} {conn : Connection} {r : Round} {p' : Progress O}
    (h : s.Turns base request failures conn p w r p' w') (hp : p.lastReferral = none) :
    s.manager.Stays w w' := by
  obtain ⟨q, v, hpassed, hafter⟩ := h.exists_passed
  obtain ⟨record, hjudge⟩ := hpassed.judged
  obtain ⟨p₁, -, hlast, hq⟩ := hpassed.noted
  have hunfollowed (referral : Referral) : r.outcome ≠ .ok (.followReferral referral) :=
    hjudge ▸ judge_ne_followReferral hs r.ending record referral
  have hnone (hr : r.outcome = .ok .reconnect) : q.lastReferral = none := by
    have hnoting := (noting_of_judge (hjudge.symm.trans hr) (by decide) p₁).2
    rw [← hq] at hnoting
    exact hnoting.trans (hlast.trans hp)
  have hrest := s.stays_after base failures conn hunfollowed hnone v
  rw [hafter] at hrest
  exact hpassed.stays.trans hrest

theorem Reaches.lastFollowed_eq_none {legs : List Leg} {a : Stage N O}
    (h : s.Reaches base request p w legs a) : lastFollowed legs = none := by
  induction h with
  | first => rfl
  | @next legs a b r h hr ih =>
    obtain ⟨q, v, hpassed, -⟩ := hr.turns.exists_passed
    obtain ⟨record, hjudge⟩ := hpassed.judged
    have hfollowed : (Leg.mk a.conn (some r.outcome)).followed? = none := by
      cases ho : r.outcome with
      | error err => rfl
      | ok x =>
        cases x with
        | followReferral referral =>
          exact absurd (hjudge.symm.trans ho) (judge_ne_followReferral hs r.ending record referral)
        | _ => rfl
    rw [lastFollowed_append, hfollowed, ih]
    rfl

theorem Reaches.lastReferral_eq_none {legs : List Leg} {a : Stage N O}
    (h : s.Reaches base request p w legs a) : a.progress.lastReferral = none :=
  h.noted.lastReferral.trans (h.lastFollowed_eq_none hs)

theorem Reaches.stays {legs : List Leg} {a : Stage N O}
    (h : s.Reaches base request p w legs a) : s.manager.Stays w a.world := by
  induction h with
  | first h =>
    have hfirst := s.stays_firstConnection base w
    rwa [h.connected] at hfirst
  | next h hr ih => exact ih.trans (hr.turns.stays hs (h.lastReferral_eq_none hs))

theorem stays_run (base : Dn) (filter : String) (scope : Scope) (attributes : List String)
    (fuel : Nat) (p : Progress O) (w : World N) :
    s.manager.Stays w (s.run base filter scope attributes fuel p w).2 := by
  obtain ⟨legs, hwalks⟩ := s.walks_run base filter scope attributes fuel p w
  generalize s.run base filter scope attributes fuel p w = a at hwalks
  obtain ⟨⟨answer, p'⟩, w'⟩ := a
  cases hwalks with
  | unconnected h =>
    have hfirst := s.stays_firstConnection base w
    rwa [h] at hfirst
  | exhausted h ha => exact h.stays hs
  | finished h ht hr => exact (h.stays hs).trans (ht.stays hs (h.lastReferral_eq_none hs))
  | resting h => exact h.stays hs
  | @cut legs a fuel p' w' h hpass =>
    have hrest := s.stays_pass (s.options.request base filter scope attributes) a.conn.session fuel
      a.progress.beginning a.world
    rw [hpass] at hrest
    exact (h.stays hs).trans hrest

end

/-- **A search that follows no referrals is the same whatever URLs servers send, and stays among the
servers that were known.** -/
theorem alike_of_run {N' : Type} {R : N → N' → Prop} {t' : Transport N'}
    (ht : s.manager.transport.AgreesUpToUrls R t') (hs : s.options.referralStrategy ≠ .follow)
    (hc : s.classifier = .standard) (base : Dn) (filter : String) (scope : Scope)
    (attributes : List String) (fuel : Nat) (p : Progress O) {w : World N} {w' : World N'}
    (hw : w.UpToUrls R w') :
    AlikeUpToUrls R (s.run base filter scope attributes fuel p w)
      ((s.on t').run base filter scope attributes fuel p w') ∧
    s.manager.Stays w (s.run base filter scope attributes fuel p w).2 ∧
    (s.on t').manager.Stays w' ((s.on t').run base filter scope attributes fuel p w').2 := by
  have halike := upToUrls_run ht hs hc base filter scope attributes fuel p hw
  have hstays := stays_run hs base filter scope attributes fuel p w
  exact ⟨halike, hstays, stays_run (s := s.on t') hs base filter scope attributes fuel p w'⟩

end Search

namespace Scripted

/-- the default server loses a search after a reference, and answers the next one by a referral -/
def astray : Network where
  hosts :=
    [("ldap.example.com:389",
      { scripts :=
          [.stream [.response (.reference ["ldap://r1/"]), .failure .endOfStream false .sessionLost]
              none,
            .stream [] (some { code := ResultCode.referral, urls := ["ldap://r2/"] })] })]

/-- a search that ignores referrals -/
def cautious : Search Network Entry where
  manager := client
  options := { referralStrategy := .ignore, retry := .immediate }
  classifier := .standard
  consumer := ⟨.ok, fun _ => true⟩

/-- the same network, where all URLs mean one server -/
def elsewhereAstray : Transport Network := transport.rewriting fun _ => ["ldaps://r3/"]

def ignored (t : Transport Network) :
    (Option (Except ClientError Unit) × Progress Entry) × World Network :=
  (cautious.on t).run Dn.root "(objectClass=*)" .subtree [] 5 {} (started astray)

theorem alike_of_run_cautious :
    transport.AgreesUpToUrls Eq elsewhereAstray ∧
      cautious.options.referralStrategy ≠ .follow ∧ cautious.classifier = .standard ∧
      (started astray).UpToUrls Eq (started astray) ∧
      (ignored transport).1.1 = some (.ok ()) ∧
      (ignored transport).1.2.lastReferral ≠ (ignored elsewhereAstray).1.2.lastReferral ∧
      Search.AlikeUpToUrls Eq (ignored transport) (ignored elsewhereAstray) ∧
      client.Stays (started astray) (ignored transport).2 ∧
      (client.on elsewhereAstray).Stays (started astray) (ignored elsewhereAstray).2 := by
  have hanswer : (ignored transport).1.1 = some (.ok ()) := by decide +kernel
  have hlast : (ignored transport).1.2.lastReferral ≠
    (ignored elsewhereAstray).1.2.lastReferral := by decide +kernel
  have hagrees : transport.AgreesUpToUrls Eq elsewhereAstray := transport.agreesUpToUrls_rewriting _
  have hstart : (started astray).UpToUrls Eq (started astray) := .refl _
  refine ⟨hagrees, by decide, rfl, hstart, hanswer, hlast, ?_⟩
  exact Search.alike_of_run (s := cautious) hagrees (by decide) rfl Dn.root "(objectClass=*)"
    .subtree [] 5 {} hstart

end Scripted

end DirectoryClient
