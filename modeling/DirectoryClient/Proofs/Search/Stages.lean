import DirectoryClient.Proofs.Search.Turn

/-!
# The stages of a search

Before each of its passes a search stands somewhere, whether or not it comes to an end within its
bounds.

* `Stage`            where a search stands when its next pass is to begin;
* `Leg`              a pass that was begun: its connection and its outcome;
* `Search.Starts`    the stage before the first pass;
* `Search.Next`      a pass that leads from one stage to the next one;
* `Search.Reaches`   the stages that a search comes to, and the passes behind it;
* `Search.Walks`     all that a search may come to, whatever its bound (`walks_run`);
* `Reaches.noted`    what a stage knows of the passes behind it.
-/

namespace DirectoryClient

open Relation

structure Stage (N O : Type) where
  /-- how many passes have failed -/
  failures : UInt32
  conn : Connection
  progress : Progress O
  world : World N

structure Leg where
  conn : Connection
  /-- none if the bound on responses was reached -/
  outcome : Option (Except ClientError PassOutcome)

namespace Leg

/-- whether the pass failed, so that it is made again -/
def failed (l : Leg) : Bool :=
  match l.outcome with
  | some (.ok .retrySameServer) | some (.ok .reconnect) => true
  | _ => false

/-- the referral that the pass ended with, if it is followed -/
def followed? (l : Leg) : Option Referral :=
  match l.outcome with
  | some (.ok x) => x.followed?
  | _ => none

end Leg

/-- the referral that was followed last -/
def lastFollowed (legs : List Leg) : Option Referral := (legs.filterMap Leg.followed?).getLast?

theorem lastFollowed_append (legs : List Leg) (l : Leg) :
    lastFollowed (legs ++ [l]) = l.followed?.or (lastFollowed legs) := by
  rw [lastFollowed, List.filterMap_append]
  cases h : l.followed? with
  | none => rw [List.filterMap_cons_none h, List.filterMap_nil, List.append_nil]; rfl
  | some r =>
    rw [List.filterMap_cons_some h, List.filterMap_nil, List.getLast?_concat]
    rfl

namespace Searching

variable {N O α β : Type} {p p' : Progress O} {w w' : World N} {a : α}

theorem bind_of_eq {x : Searching N O α} {f : α → Searching N O β}
    (h : x p w = ((a, p'), w')) : (x >>= f) p w = f a p' w' := by
  show f (x p w).1.1 (x p w).1.2 (x p w).2 = _
  rw [h]

theorem get_apply : (get : Searching N O (Progress O)) p w = ((p, p), w) := rfl

theorem modify_apply {f : Progress O → Progress O} :
    (modify f : Searching N O Unit) p w = (((), f p), w) := rfl

/-- Where larger bounds keep the answer, it comes to what any bound gives. -/
theorem Comes.of_eq {x : Nat → Searching N O (Option α)}
    (hx : ∀ {fuel fuel'}, fuel ≤ fuel' → Within (x fuel) (x fuel')) {fuel : Nat}
    (h : x fuel p w = ((some a, p'), w')) : Comes x p w a p' w' := ⟨fuel, fun _ hle => hx hle h⟩

end Searching

namespace Search

variable {N O : Type} (s : Search N O) (base : Dn) (request : SearchRequest) (p : Progress O)
  (w : World N)

/-! ## Stages -/

structure Starts (a : Stage N O) : Prop where
  connected : s.firstConnection base w = (.ok a.conn, a.world)
  failures : a.failures = 0
  progress : a.progress = p.restarted

structure Next (a : Stage N O) (r : Round) (b : Stage N O) : Prop where
  turns : s.Turns base request a.failures a.conn a.progress a.world r b.progress b.world
  again : r.turn = .again b.failures b.conn

/-- The passes are in the order of time. -/
inductive Reaches : List Leg → Stage N O → Prop
  | first {a : Stage N O} (h : s.Starts base p w a) : Reaches [] a
  | next {legs : List Leg} {a b : Stage N O} {r : Round} (h : Reaches legs a)
      (hr : s.Next base request a r b) : Reaches (legs ++ [⟨a.conn, some r.outcome⟩]) b

/-- A search from beginning to end, or until its bound is reached: the passes that it begins, its
answer, and the progress and the world that it leaves. -/
inductive Walks : List Leg → Option (Except ClientError Unit) → Progress O → World N → Prop
  /-- there is no connection for the first pass -/
  | unconnected {err : ClientError} {w' : World N}
      (h : s.firstConnection base w = (.error err, w')) :
      Walks [] (some (.error err)) p.restarted w'
  /-- no more attempts are allowed -/
  | exhausted {legs : List Leg} {a : Stage N O} (h : s.Reaches base request p w legs a)
      (ha : s.options.retry.allowsAttempt (a.progress.attempts + 1) = false) :
      Walks legs (some (.error (s.exhaustion base))) a.progress a.world
  | finished {legs : List Leg} {a : Stage N O} {r : Round} {answer : Except ClientError Unit}
      {p' : Progress O} {w' : World N} (h : s.Reaches base request p w legs a)
      (ht : s.Turns base request a.failures a.conn a.progress a.world r p' w')
      (hr : r.turn = .finished answer) :
      Walks (legs ++ [⟨a.conn, some r.outcome⟩]) (some answer) p' w'
  /-- the bound on passes is reached -/
  | resting {legs : List Leg} {a : Stage N O} (h : s.Reaches base request p w legs a) :
      Walks legs none a.progress a.world
  /-- the bound on responses is reached -/
  | cut {legs : List Leg} {a : Stage N O} {fuel : Nat} {p' : Progress O} {w' : World N}
      (h : s.Reaches base request p w legs a)
      (hpass : s.pass request a.conn.session fuel a.progress.beginning a.world =
        ((none, p'), w')) :
      Walks (legs ++ [⟨a.conn, none⟩]) none p' w'

variable {s base request p w} {legs : List Leg} {a b : Stage N O} {r : Round}

/-! ## Every search is such a walk -/

section
variable {failures : UInt32} {conn : Connection} {fuel : Nat} {p p' : Progress O}
  {w w' : World N}

theorem turn_of_exhausted (h : s.options.retry.allowsAttempt (p.attempts + 1) = false) :
    s.turn base request fuel failures conn p w =
      ((some (.finished (.error (s.exhaustion base))), p), w) := by
  rw [turn, Searching.bind_of_eq Searching.get_apply, h]
  rfl

section
variable (h : s.options.retry.allowsAttempt (p.attempts + 1) = true)
include h

theorem turn_of_cut (hpass : s.pass request conn.session fuel p.beginning w = ((none, p'), w')) :
    s.turn base request fuel failures conn p w = ((none, p'), w') := by
  rw [turn, Searching.bind_of_eq Searching.get_apply, h, if_pos rfl,
    Searching.bind_of_eq Searching.modify_apply, Searching.bind_of_eq hpass]
  rfl

variable (base failures) in
/-- A pass that ends within the bound makes a round. -/
theorem turn_of_pass {e : PassEnd}
    (hpass : s.pass request conn.session fuel p.beginning w = ((some e, p'), w')) :
    ∃ r p'' w'', s.Turns base request failures conn p w r p'' w'' ∧
      s.turn base request fuel failures conn p w = ((some r.turn, p''), w'') := by
  rcases ho : s.outcome conn e p' w' with ⟨⟨o, p₂⟩, w₂⟩
  rcases ht : s.after base failures conn o p₂ w₂ with ⟨⟨t, p₃⟩, w₃⟩
  have hcomes := Searching.Comes.of_eq (s.within_pass request conn.session) hpass
  refine ⟨⟨e, o, t⟩, p₃, w₃, ⟨h, p', w', p₂, w₂, hcomes, ho, ht⟩, ?_⟩
  rw [turn, Searching.bind_of_eq Searching.get_apply, h, if_pos rfl,
    Searching.bind_of_eq Searching.modify_apply, Searching.bind_of_eq hpass]
  show (s.outcome conn e >>= fun o => s.after base failures conn o >>= fun t => pure (some t))
    p' w' = _
  rw [Searching.bind_of_eq ho, Searching.bind_of_eq ht]
  rfl

end

end

theorem walks_passes (h : s.Reaches base request p w legs a) (fuel : Nat) :
    ∃ legs' answer p' w', s.passes base request fuel a.failures a.conn a.progress a.world =
      ((answer, p'), w') ∧ s.Walks base request p w legs' answer p' w' := by
  induction fuel generalizing legs a with
  | zero => exact ⟨legs, none, _, _, rfl, .resting h⟩
  | succ fuel ih =>
    cases ha : s.options.retry.allowsAttempt (a.progress.attempts + 1) with
    | false =>
      refine ⟨legs, _, _, _, ?_, .exhausted h ha⟩
      rw [passes, Searching.bind_of_eq (turn_of_exhausted ha)]
      rfl
    | true =>
      rcases hpass : s.pass request a.conn.session fuel a.progress.beginning a.world with
        ⟨⟨_ | e, p'⟩, w'⟩
      · refine ⟨_, none, p', w', ?_, .cut h hpass⟩
        rw [passes, Searching.bind_of_eq (turn_of_cut ha hpass)]
        rfl
      · obtain ⟨r, p', w', hturns, hturn⟩ :=
          turn_of_pass base a.failures ha hpass
        rw [passes, Searching.bind_of_eq hturn]
        cases hr : r.turn with
        | finished answer => exact ⟨_, _, p', w', rfl, .finished h hturns hr⟩
        | again failures conn => exact ih (.next (b := ⟨failures, conn, p', w'⟩) h ⟨hturns, hr⟩)

/-- **Whatever its bound, a search is a walk from stage to stage.** -/
theorem walks_run (s : Search N O) (base : Dn) (filter : String) (scope : Scope)
    (attributes : List String) (fuel : Nat) (p : Progress O) (w : World N) :
    ∃ legs, s.Walks base (s.options.request base filter scope attributes) p w legs
      (s.run base filter scope attributes fuel p w).1.1
      (s.run base filter scope attributes fuel p w).1.2
      (s.run base filter scope attributes fuel p w).2 := by
  rcases hfirst : s.firstConnection base w with ⟨err | conn, w₁⟩
  · have hrun : s.run base filter scope attributes fuel p w =
        ((some (.error err), p.restarted), w₁) := by
      rw [run, Searching.bind_of_eq Searching.modify_apply,
        Searching.bind_of_eq (Searching.lift_apply hfirst)]
      rfl
    rw [hrun]
    exact ⟨[], .unconnected hfirst⟩
  · have hstart : s.Reaches base (s.options.request base filter scope attributes) p w []
        ⟨0, conn, p.restarted, w₁⟩ := .first ⟨hfirst, rfl, rfl⟩
    obtain ⟨legs, answer, p', w', hpasses, hwalks⟩ := walks_passes hstart fuel
    have hrun : s.run base filter scope attributes fuel p w = ((answer, p'), w') := by
      rw [run, Searching.bind_of_eq Searching.modify_apply,
        Searching.bind_of_eq (Searching.lift_apply hfirst)]
      exact hpasses
    rw [hrun]
    exact ⟨legs, hwalks⟩

/-! ## What a stage knows -/

theorem Starts.fetches (h : s.Starts base p w a) : ReflTransGen s.manager.Fetch w a.world := by
  have hw := s.fetches_firstConnection base w
  rwa [h.connected] at hw

/-- what a stage knows of the passes behind it -/
structure Noted (legs : List Leg) (a : Stage N O) : Prop where
  complete : a.progress.complete = true
  lastReferral : a.progress.lastReferral = lastFollowed legs
  failures : a.failures = UInt32.ofNat (legs.countP Leg.failed)

theorem Starts.noted (h : s.Starts base p w a) : Noted [] a where
  complete := by rw [h.progress]; rfl
  lastReferral := by rw [h.progress]; rfl
  failures := h.failures

theorem Onward.failures_eq {failures failures' : UInt32} {conn conn' : Connection}
    {last : Option Referral} {v w' : World N} {x : PassOutcome}
    (h : s.Onward base failures conn last v x failures' conn' w') :
    x ≠ .done ∧ failures' = if (Leg.mk conn (some (.ok x))).failed then failures + 1
      else failures := by
  cases h with
  | repeated => exact ⟨nofun, rfl⟩
  | reconnected h => exact ⟨nofun, rfl⟩
  | referred h => exact ⟨nofun, rfl⟩

theorem Noted.next (hn : Noted legs a) (h : s.Next base request a r b) :
    Noted (legs ++ [⟨a.conn, some r.outcome⟩]) b := by
  obtain ⟨v, x, hpassed, hx, honward⟩ := h.turns.exists_onward h.again
  obtain ⟨hne, hfail⟩ := honward.failures_eq
  obtain ⟨p₁, hcomplete, hlast, hp⟩ := hpassed.noted
  obtain ⟨record, hjudge⟩ := hpassed.judged
  obtain ⟨hc, hl⟩ := noting_of_judge (hjudge.symm.trans hx) hne p₁
  rw [← hp] at hc hl
  refine ⟨?_, ?_, ?_⟩
  · rw [hc, hcomplete, hn.complete]
  · rw [hl, hlast, hn.lastReferral, lastFollowed_append, hx]
    rfl
  · rw [hfail, hn.failures, List.countP_append, List.countP_singleton, hx]
    split
    · rw [UInt32.ofNat_add]
      rfl
    · rfl

theorem Reaches.noted (h : s.Reaches base request p w legs a) : Noted legs a := by
  induction h with
  | first h => exact h.noted
  | next h hr ih => exact ih.next hr

end Search

end DirectoryClient
