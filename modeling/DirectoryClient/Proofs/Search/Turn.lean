import DirectoryClient.Proofs.Run.Fetching
import DirectoryClient.Proofs.Search.Course

/-!
# What a turn of a search consists of

A pass, the note of how it ended, and what is done about it.  Lists of events are in the order of
time here.

* `Sent`               what a pass leaves: one request on one session, and reading;
* `Search.Passed`      a pass and its end, before anything is done about it (`Turns.exists_passed`);
* `Turns.over`         nothing is done about it if the search is over;
* `Search.Interlude`   what is done about it leaves, by the outcome (`interlude_of_after`);
* `Search.Onward`      the steps to the next pass, if there is one (`Turns.exists_onward`);
* `noting_of_judge`    what is noted of a pass that another one follows.
-/

namespace DirectoryClient

open Relation

/-- one request on a session, and reading -/
def Sent (session : SessionId) (request : SearchRequest) (l : List Event) : Prop :=
  ∃ a rest, l = .search session request a :: rest ∧ ∀ e ∈ rest, e.IsReading

section
variable {N O α : Type} {x : Searching N O α} {p : Progress O}
  {R R' : α → Progress O → List Event → Prop}

theorem Searching.Leaves.and (h : Searching.Leaves x p R) (h' : Searching.Leaves x p R') :
    Searching.Leaves x p fun a p' l => R a p' l ∧ R' a p' l := by
  intro w
  obtain ⟨new, hlog, hr⟩ := h w
  obtain ⟨new', hlog', hr'⟩ := h' w
  obtain rfl := List.append_cancel_right (hlog.symm.trans hlog')
  exact ⟨new, hlog, hr, hr'⟩

end

theorem World.events_of_log {N : Type} {w w' : World N} {new : List Event}
    (h : w'.log = new ++ w.log) : w'.events = w.events ++ new.reverse := by
  rw [events, h, List.reverse_append]
  rfl

theorem World.log_of_events {N : Type} {w w' : World N} {new : List Event}
    (h : w'.events = w.events ++ new) : w'.log = new.reverse ++ w.log := by
  rw [← List.reverse_inj, List.reverse_append, List.reverse_reverse]
  exact h

namespace Search

variable {N O : Type} (s : Search N O) (base : Dn) (request : SearchRequest)

/-! ## One pass -/

variable {s request} in
theorem work_of_pass {session : SessionId} {fuel : Nat} {p p' : Progress O} {w w' : World N}
    {o : Option PassEnd} (h : s.pass request session fuel p w = ((o, p'), w')) :
    ReflTransGen s.manager.Work w w' := by
  have htalk : Act.Follows s.manager.Talk (s.pass request session fuel p) :=
    s.follows_pass request session fuel p
  have hwork := ReflTransGen.mono (fun _ _ => Manager.Talk.work) _ _ (htalk w)
  rwa [h] at hwork

theorem sent_of_pass (session : SessionId) (fuel : Nat) (p : Progress O) :
    Searching.Leaves (s.pass request session fuel) p fun _ _ l =>
      Sent session request l.reverse := by
  refine .bind (.lift (.call fun a => ?_))
  cases a with
  | error f => exact .pure ⟨.error f, [], rfl, List.forall_mem_nil _⟩
  | ok c =>
    refine .bind ((s.delivery_of_stream c fuel p).mono ?_)
    rintro o p' l ⟨objects, -, h⟩
    have hread := h.isReading
    rcases o with _ | (_ | e)
    · exact .pure ⟨.ok c, l.reverse, by simp, hread⟩
    · refine .bind (.lift ((s.leaves_ending c).mono ?_))
      rintro result _ ⟨tail, ht, rfl⟩
      refine .pure ⟨.ok c, l.reverse ++ .finish c result :: tail.reverse, by simp, fun e he => ?_⟩
      rcases List.mem_append.mp he with he | he
      · exact hread e he
      · rcases List.mem_cons.mp he with rfl | he
        · trivial
        · rcases ht with rfl | ⟨a, rfl⟩
          · cases he
          · obtain rfl := List.mem_singleton.mp he
            trivial
    · exact .pure ⟨.ok c, l.reverse, by simp, hread⟩

/-- Between a pass and what is done about its end. -/
structure Passed (conn : Connection) (p : Progress O) (w : World N) (r : Round) (q : Progress O)
    (v : World N) : Prop where
  left : ∃ pass objects, v.events = w.events ++ (pass ++ [.passed r.ending]) ∧
    Sent conn.session request pass ∧
    Hands s.consumer request p.handed (some r.ending) objects pass ∧
    q.handed = p.handed ++ objects
  noted : ∃ p₁ : Progress O, p₁.complete = p.complete ∧ p₁.lastReferral = p.lastReferral ∧
    q = p₁.noting s.options r.ending
  judged : ∃ record, r.outcome = s.judge r.ending record
  registry : v.registry = w.registry
  work : ReflTransGen s.manager.Work w v

variable {s base request} {conn : Connection} {p p' q : Progress O} {w w' v : World N} {r : Round}
  {failures : UInt32}

theorem Turns.exists_passed (h : s.Turns base request failures conn p w r p' w') :
    ∃ q v, s.Passed request conn p w r q v ∧
      s.after base failures conn r.outcome q v = ((r.turn, p'), w') := by
  obtain ⟨-, p₁, w₁, q, v, hpass, houtcome, hafter⟩ := h
  obtain ⟨fuel, hpass⟩ := hpass.exists_eq
  have hboth := (s.delivery_of_pass request conn.session fuel p.beginning).and
    (s.sent_of_pass request conn.session fuel p.beginning)
  obtain ⟨l, hl, ⟨objects, hgains, hhands⟩, hsent⟩ := hboth.of_eq hpass
  have hreg : w₁.registry = w.registry := by
    have hreg := s.registry_pass request conn.session fuel p.beginning w
    rwa [hpass] at hreg
  have hv : ((s.judge r.ending (w₁.registry.server conn.server).record,
      p₁.noting s.options r.ending), (World.record (.passed r.ending) w₁).2) =
      ((r.outcome, q), v) := houtcome
  obtain ⟨⟨ho, hq⟩, rfl⟩ : (_ ∧ _) ∧ _ := ⟨Prod.mk.inj (Prod.mk.inj hv).1, (Prod.mk.inj hv).2⟩
  have hlog : (World.record (.passed r.ending) w₁).2.log = (.passed r.ending :: l) ++ w.log :=
    congrArg (_ :: ·) hl
  have hhanded : q.handed = p.handed ++ objects := by
    rw [← hq, Progress.handed_noting, hgains.handed]
    rfl
  refine ⟨q, (World.record (.passed r.ending) w₁).2,
    ⟨⟨l.reverse, objects, ?_, hsent, hhands, hhanded⟩,
      ⟨p₁, hgains.complete, hgains.lastReferral, hq.symm⟩, ⟨_, ho.symm⟩, hreg, ?_⟩, hafter⟩
  · rw [World.events_of_log hlog, List.reverse_cons]
  · exact (work_of_pass hpass).tail (.passed _ _)

/-! ## What is done after a pass -/

/-- Nothing is done after a pass with which the search is over. -/
theorem Turns.over (h : s.Turns base request failures conn p w r p' w')
    (answer : Except ClientError Unit)
    (hj : ∀ record, s.judge r.ending record = answer.map fun _ => .done) :
    s.Passed request conn p w r p' w' ∧ r.turn = .finished answer := by
  obtain ⟨q, v, hpassed, hafter⟩ := h.exists_passed
  obtain ⟨record, hjudge⟩ := hpassed.judged
  have hdone : s.after base failures conn r.outcome q v = ((.finished answer, q), v) := by
    rw [hjudge, hj]
    cases answer <;> rfl
  obtain ⟨hfirst, rfl⟩ := Prod.mk.inj (hdone.symm.trans hafter)
  obtain ⟨hturn, rfl⟩ := Prod.mk.inj hfirst
  exact ⟨hpassed, hturn.symm⟩

/-- what is done after a pass on a connection, by its outcome; so many passes failed before -/
inductive Interlude (policy : RetryPolicy) (failures : UInt32) (conn : Connection) :
    Except ClientError PassOutcome → List Event → Prop
  | failed (err : ClientError) : Interlude policy failures conn (.error err) []
  | done : Interlude policy failures conn (.ok .done) []
  | repeated (draw : UInt64) : Interlude policy failures conn (.ok .retrySameServer)
      [.pause failures (policy.delay failures draw)]
  | reconnected (a : Except Failure Unit) (draw : UInt64) {l : List Event} (hl : Fetched l) :
      Interlude policy failures conn (.ok .reconnect)
        (.close conn.session a :: .pause failures (policy.delay failures draw) :: l)
  | referred (referral : Referral) {l : List Event} (hl : Fetched l) :
      Interlude policy failures conn (.ok (.followReferral referral)) l

theorem leaves_wait (failures : UInt32) : (s.wait (N := N) failures).Leaves fun _ l =>
    ∃ draw, l = [.pause failures (s.options.retry.delay failures draw)] := fun _ =>
  ⟨[_], rfl, _, rfl⟩

theorem interlude_of_after (base : Dn) (failures : UInt32) (conn : Connection)
    (o : Except ClientError PassOutcome) (p : Progress O) :
    Searching.Leaves (s.after base failures conn o) p fun _ p' l =>
      Interlude s.options.retry failures conn o l.reverse ∧ p' = p := by
  rcases o with e | (_ | _ | _ | r)
  · exact .pure ⟨.failed e, rfl⟩
  · exact .pure ⟨.done, rfl⟩
  · refine .bind (.lift ((leaves_wait failures).mono ?_))
    rintro _ _ ⟨draw, rfl⟩
    exact .pure ⟨.repeated draw, rfl⟩
  · refine .bind (.lift (.call fun a => .bind (.lift ((leaves_wait failures).mono ?_))))
    rintro _ _ ⟨draw, rfl⟩
    have hfetch := Manager.leaves_of_fetches (s.fetches_resolve base p.lastReferral)
    refine .bind (.get (.bind (.lift (hfetch.mono fun _ l hl => .pure ⟨?_, rfl⟩))))
    have h : Interlude s.options.retry failures conn _ _ := .reconnected a draw hl.reverse
    simpa using h
  · have hfetch := Manager.leaves_of_fetches (s.fetches_connectReferral r)
    refine .bind (.lift (hfetch.mono fun _ l hl => .pure ⟨?_, rfl⟩))
    exact .referred r hl.reverse

/-! ## The next pass -/

variable (s base) in
/-- The steps from a pass on a connection to the next pass: with what outcome, on what connection and
in what world it begins, and how many passes have failed then. -/
inductive Onward (failures : UInt32) (conn : Connection) (last : Option Referral) (v : World N) :
    PassOutcome → UInt32 → Connection → World N → Prop
  | repeated : Onward failures conn last v .retrySameServer (failures + 1) conn
      (s.wait failures v).2
  | reconnected {conn' : Connection} {w' : World N}
      (h : s.resolve base last
        (s.wait failures (s.manager.transport.hangUp conn.session v).2).2 = (.ok conn', w')) :
      Onward failures conn last v .reconnect (failures + 1) conn' w'
  | referred {referral : Referral} {conn' : Connection} {w' : World N}
      (h : s.connectReferral referral v = (.ok conn', w')) :
      Onward failures conn last v (.followReferral referral) failures conn' w'

theorem onwards_eq_again {a : Except ClientError Connection} {n failures' : UInt32}
    {conn' : Connection} (h : onwards n a = .again failures' conn') :
    failures' = n ∧ a = .ok conn' := by
  cases a with
  | error e => cases h
  | ok c =>
    obtain ⟨rfl, rfl⟩ : n = failures' ∧ c = conn' := Turn.again.inj h
    exact ⟨rfl, rfl⟩

theorem after_reconnect (base : Dn) (failures : UInt32) (conn : Connection) (q : Progress O)
    {v u : World N} (hu : (s.wait failures (s.manager.transport.hangUp conn.session v).2).2 = u) :
    s.after base failures conn (.ok .reconnect) q v =
      ((onwards (failures + 1) (s.resolve base q.lastReferral u).1, q),
        (s.resolve base q.lastReferral u).2) := by
  subst hu
  rfl

theorem after_referral (base : Dn) (failures : UInt32) (conn : Connection) (r : Referral)
    (q : Progress O) (v : World N) : s.after base failures conn (.ok (.followReferral r)) q v =
      ((onwards failures (s.connectReferral r v).1, q), (s.connectReferral r v).2) := rfl

theorem onward_of_after {o : Except ClientError PassOutcome} {failures' : UInt32}
    {conn' : Connection}
    (h : s.after base failures conn o q v = ((.again failures' conn', p'), w')) :
    p' = q ∧ ∃ x, o = .ok x ∧
      s.Onward base failures conn q.lastReferral v x failures' conn' w' := by
  rcases o with e | (_ | _ | _ | r)
  · cases h
  · cases h
  · cases h
    exact ⟨rfl, _, rfl, .repeated⟩
  · rw [after_reconnect base failures conn q rfl] at h
    rcases hx : s.resolve base q.lastReferral _ with ⟨a, w₁⟩
    rw [hx] at h
    obtain ⟨⟨ht, rfl⟩, rfl⟩ : (_ ∧ _) ∧ _ := ⟨Prod.mk.inj (Prod.mk.inj h).1, (Prod.mk.inj h).2⟩
    obtain ⟨rfl, rfl⟩ := onwards_eq_again ht
    exact ⟨rfl, _, rfl, .reconnected hx⟩
  · rw [after_referral] at h
    rcases hx : s.connectReferral r v with ⟨a, w₁⟩
    rw [hx] at h
    obtain ⟨⟨ht, rfl⟩, rfl⟩ : (_ ∧ _) ∧ _ := ⟨Prod.mk.inj (Prod.mk.inj h).1, (Prod.mk.inj h).2⟩
    obtain ⟨rfl, rfl⟩ := onwards_eq_again ht
    exact ⟨rfl, _, rfl, .referred hx⟩

theorem Turns.exists_onward {failures' : UInt32} {conn' : Connection}
    (h : s.Turns base request failures conn p w r p' w') (hr : r.turn = .again failures' conn') :
    ∃ v x, s.Passed request conn p w r p' v ∧ r.outcome = .ok x ∧
      s.Onward base failures conn p'.lastReferral v x failures' conn' w' := by
  obtain ⟨q, v, hpassed, hafter⟩ := h.exists_passed
  rw [hr] at hafter
  obtain ⟨rfl, x, ho, honward⟩ := onward_of_after hafter
  exact ⟨v, x, hpassed, ho, honward⟩

end Search

/-! ## What is noted -/

def PassOutcome.followed? : PassOutcome → Option Referral
  | .followReferral r => some r
  | _ => none

namespace Search

variable {N O : Type} {s : Search N O}

/-- After a pass that another one follows the search is as complete as before, and a referral is
noted exactly if it is followed. -/
theorem noting_of_judge {e : PassEnd} {record : ServerRecord} {x : PassOutcome}
    (h : s.judge e record = .ok x) (hx : x ≠ .done) (p : Progress O) :
    (p.noting s.options e).complete = p.complete ∧
      (p.noting s.options e).lastReferral = x.followed?.or p.lastReferral := by
  rcases e with _ | (_ | result) | f | err
  · cases h
    exact absurd rfl hx
  · cases h
    exact absurd rfl hx
  · simp only [judge, onResult] at h
    simp only [Progress.noting, Progress.notingResult]
    split at h
    case isTrue href =>
      rw [if_pos href]
      split at h
      · cases h
        exact absurd rfl hx
      · cases h
        exact ⟨rfl, rfl⟩
    case isFalse href =>
      rw [if_neg href]
      split at h
      · cases h
        exact absurd rfl hx
      · split at h
        · cases h
          exact absurd rfl hx
        · rename_i hcut
          rw [if_neg hcut]
          split at h
          · cases h
            exact ⟨rfl, rfl⟩
          · cases h
            exact ⟨rfl, rfl⟩
          · cases h
  · simp only [judge, onFailure] at h
    split at h
    · cases h
      exact ⟨rfl, rfl⟩
    · cases h
      exact ⟨rfl, rfl⟩
    · cases h
  · cases h

end Search

end DirectoryClient
