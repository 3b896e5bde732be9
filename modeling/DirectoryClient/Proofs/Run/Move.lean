import DirectoryClient.Proofs.Manager
import DirectoryClient.Search.Loop
import Mathlib.Logic.Relation

/-!
# What managers and searches are made of

Whatever a manager or a search does comes down to a few moves, so that a property of worlds which
every move keeps is kept by all operations.

* `Manager.Fetch`       a draw, a choice of a server, a session gained;
* `Manager.Move`        the same, a session lost, a pause;
* `Manager.Work`        the same and the calls on cursors, with what a search writes down;
* `Manager.Talk`        those calls alone, of which a pass is made (`registry_pass`);
* `Work.kinds`          the three pieces of work that touch the registry, and all others;
* `Act.Follows`         a computation made of steps of one kind (`Follows.bind`);
* `fetches_connection`, `follows_close`, ...   the operations of a manager are made of these;
* `Search.follows_run`  a search is made of work.
-/

namespace DirectoryClient

open Relation

/-! ## Computations made of steps -/

section
variable {N O α β : Type} {R R' : World N → World N → Prop}

/-- whatever the world, the computation leads on by steps of one kind -/
def Act.Follows (R : World N → World N → Prop) (x : Act N α) : Prop :=
  ∀ w, ReflTransGen R w (x w).2

namespace Act.Follows

theorem pure (a : α) : Act.Follows R (Pure.pure a : Act N α) := fun _ => .refl

theorem bind {x : Act N α} {f : α → Act N β} (hx : x.Follows R) (hf : ∀ a, (f a).Follows R) :
    Act.Follows R (x >>= f) := fun w => (hx w).trans (hf _ _)

theorem of_step {x : Act N α} (h : ∀ w, R w (x w).2) : x.Follows R := fun w => .single (h w)

theorem mono {x : Act N α} (h : ∀ w w', R w w' → R' w w') (hx : x.Follows R) : x.Follows R' :=
  fun w => ReflTransGen.mono h _ _ (hx w)

/-- what no step changes is not changed -/
theorem keeps {x : Act N α} {f : World N → β} (h : ∀ w w', R w w' → f w' = f w)
    (hx : x.Follows R) (w : World N) : f (x w).2 = f w := by
  have hw := hx w
  generalize (x w).2 = w' at hw
  induction hw with
  | refl => rfl
  | tail _ hs ih => exact (h _ _ hs).trans ih

end Act.Follows

/-- the same for computations with progress -/
def Searching.Follows (R : World N → World N → Prop) (x : Searching N O α) : Prop :=
  ∀ p, Act.Follows R (x p)

namespace Searching.Follows

theorem pure (a : α) : Searching.Follows R (Pure.pure a : Searching N O α) := fun _ _ => .refl

theorem bind {x : Searching N O α} {f : α → Searching N O β} (hx : Searching.Follows R x)
    (hf : ∀ a, Searching.Follows R (f a)) : Searching.Follows R (x >>= f) :=
  fun p w => (hx p w).trans (hf _ _ _)

theorem lift {x : Act N α} (hx : x.Follows R) :
    Searching.Follows R (liftM x : Searching N O α) := fun _ w => hx w

theorem modify (f : Progress O → Progress O) :
    Searching.Follows R (modify f : Searching N O Unit) := fun _ _ => .refl

theorem get : Searching.Follows R (get : Searching N O (Progress O)) := fun _ _ => .refl

end Searching.Follows

end

/-- a line that neither finds the server of a URL nor tells of connecting one -/
def Event.IsPlain : Event → Prop
  | .located _ _ | .connect _ _ _ | .bind _ _ _ => False
  | _ => True

namespace Manager

variable {N : Type} (m : Manager N)

/-! ## Moves -/

/-- what finding a server and connecting it is made of -/
inductive Fetch : World N → World N → Prop
  | draw (w) : Fetch w (World.draw w).2
  | choose (d w) : Fetch w (select d w).2
  | locate (url w) : Fetch w (m.selectForUrl url w).2
  | attach (i w) (hi : i < w.registry.size) : Fetch w (m.connectServer i w).2

inductive Move : World N → World N → Prop
  | draw (w) : Move w (World.draw w).2
  | choose (d w) : Move w (select d w).2
  | locate (url w) : Move w (m.selectForUrl url w).2
  | attach (i w) (hi : i < w.registry.size) : Move w (m.connectServer i w).2
  | detach (i w) (hi : i < w.registry.size) : Move w (m.closeServer i w).2
  | hangUp (s w) : Move w (m.transport.hangUp s w).2
  | pause (retry length w) : Move w (World.record (.pause retry length) w).2

inductive Work : World N → World N → Prop
  | move {w w'} (h : m.Move w w') : Work w w'
  | start (s request w) : Work w (m.transport.start s request w).2
  | advance (c w) : Work w (m.transport.advance c w).2
  | terminal (c w) : Work w (m.transport.terminal c w).2
  | giveUp (c w) : Work w (m.transport.giveUp c w).2
  | cancelNow (c w) : Work w (m.transport.cancelNow c w).2
  | handed (more w) : Work w (World.record (.handed more) w).2
  | passed (e w) : Work w (World.record (.passed e) w).2

/-- a call on a cursor, or an object that is handed over -/
inductive Talk : World N → World N → Prop
  | start (s request w) : Talk w (m.transport.start s request w).2
  | advance (c w) : Talk w (m.transport.advance c w).2
  | terminal (c w) : Talk w (m.transport.terminal c w).2
  | giveUp (c w) : Talk w (m.transport.giveUp c w).2
  | cancelNow (c w) : Talk w (m.transport.cancelNow c w).2
  | handed (more w) : Talk w (World.record (.handed more) w).2

variable {m} in
theorem Fetch.move {w w' : World N} (h : m.Fetch w w') : m.Move w w' := by
  cases h with
  | draw => exact .draw w
  | choose d => exact .choose d w
  | locate url => exact .locate url w
  | attach i _ hi => exact .attach i w hi

variable {m} in
theorem Talk.work {w w' : World N} (h : m.Talk w w') : m.Work w w' := by
  cases h with
  | start s request => exact .start s request w
  | advance c => exact .advance c w
  | terminal c => exact .terminal c w
  | giveUp c => exact .giveUp c w
  | cancelNow c => exact .cancelNow c w
  | handed more => exact .handed more w

variable {m} in
theorem Talk.registry_eq {w w' : World N} (h : m.Talk w w') : w'.registry = w.registry := by
  cases h <;> rfl

variable {m} in
theorem follows_move {α : Type} {x : Act N α} (h : x.Follows m.Fetch) : x.Follows m.Move :=
  h.mono fun _ _ => Fetch.move

variable {m} in
theorem follows_work {α : Type} {x : Act N α} (h : x.Follows m.Move) : x.Follows m.Work :=
  h.mono fun _ _ => .move

variable {m} in
theorem work_of_fetches {w w' : World N} (h : ReflTransGen m.Fetch w w') :
    ReflTransGen m.Work w w' := ReflTransGen.mono (fun _ _ hs => .move hs.move) _ _ h

variable {m} in
/-- A server is looked up, connected or closed; everything else leaves the registry alone. -/
theorem Work.kinds {w w' : World N} (h : m.Work w w') :
    (∃ url, w' = (m.selectForUrl url w).2) ∨
    (∃ i < w.registry.size, w' = (m.connectServer i w).2) ∨
    (∃ i < w.registry.size, w' = (m.closeServer i w).2) ∨
    w'.registry = w.registry ∧ ∃ new, w'.log = new ++ w.log ∧ ∀ e ∈ new, e.IsPlain := by
  have plain {line : Event} (hl : line.IsPlain) : ∀ e ∈ [line], e.IsPlain :=
    fun _ he => List.mem_singleton.mp he ▸ hl
  cases h with
  | move hm =>
    cases hm with
    | locate url => exact .inl ⟨url, rfl⟩
    | attach i _ hi => exact .inr (.inl ⟨i, hi, rfl⟩)
    | detach i _ hi => exact .inr (.inr (.inl ⟨i, hi, rfl⟩))
    | draw => exact .inr (.inr (.inr ⟨rfl, [], rfl, List.forall_mem_nil _⟩))
    | choose d => exact .inr (.inr (.inr ⟨rfl, [_], rfl, plain trivial⟩))
    | hangUp s => exact .inr (.inr (.inr ⟨rfl, [_], rfl, plain trivial⟩))
    | pause retry length => exact .inr (.inr (.inr ⟨rfl, [_], rfl, plain trivial⟩))
  | start s request => exact .inr (.inr (.inr ⟨rfl, [_], rfl, plain trivial⟩))
  | advance c => exact .inr (.inr (.inr ⟨rfl, [_], rfl, plain trivial⟩))
  | terminal c => exact .inr (.inr (.inr ⟨rfl, [_], rfl, plain trivial⟩))
  | giveUp c => exact .inr (.inr (.inr ⟨rfl, [_], rfl, plain trivial⟩))
  | cancelNow c => exact .inr (.inr (.inr ⟨rfl, [_], rfl, plain trivial⟩))
  | handed more => exact .inr (.inr (.inr ⟨rfl, [_], rfl, plain trivial⟩))
  | passed e => exact .inr (.inr (.inr ⟨rfl, [_], rfl, plain trivial⟩))

/-! ## Operations of a manager -/

variable {m}

theorem fetches_connectTo {i : Nat} {w : World N} (hi : i < w.registry.size) :
    ReflTransGen m.Fetch w (m.connectTo i w).2 := .single (.attach i w hi)

theorem fetches_connection (d : Dn) : (m.connection d).Follows m.Fetch := fun w =>
  .head (.choose d w) (fetches_connectTo (select_lt_size d w))

theorem fetches_connectionForUrl (url : LdapUrl) : (m.connectionForUrl url).Follows m.Fetch :=
  fun w => .head (.locate url w) (fetches_connectTo (m.selectForUrl_lt_size url w))

theorem fetches_selectForReferral (r : Referral) : (m.selectForReferral r).Follows m.Fetch := by
  intro w
  rcases m.selectForReferral_cases r w with ⟨-, hs⟩ | ⟨e, hs⟩ | ⟨text, -, url, -, hs⟩ <;> rw [hs]
  · exact .single (.draw w)
  · exact .head (.draw w) (.single (.locate url _))

theorem fetches_connectionForReferral (r : Referral) :
    (m.connectionForReferral r).Follows m.Fetch := by
  intro w
  refine (fetches_selectForReferral r w).trans ?_
  simp only [connectionForReferral, Act.bind_apply]
  cases h : (m.selectForReferral r w).1 with
  | error e => exact .refl
  | ok o =>
    cases o with
    | none => exact .refl
    | some i => exact fetches_connectTo (m.selectForReferral_lt_size h)

theorem fetches_connectionToDefault : (m.connectionToDefault).Follows m.Fetch := fun _ =>
  fetches_connectTo Registry.size_pos

theorem fetches_connect : (m.connect).Follows m.Fetch :=
  .bind fetches_connectionToDefault fun _ => .pure _

theorem follows_closeServers (l : List Nat) (last : Option ClientError) (w : World N)
    (hl : ∀ i ∈ l, i < w.registry.size) : ReflTransGen m.Move w (m.closeServers last l w).2 := by
  induction l generalizing last w with
  | nil => exact .refl
  | cons i l ih =>
    have hi : i < w.registry.size := hl i List.mem_cons_self
    refine .head (.detach i w hi) (ih _ _ fun j hj => ?_)
    rw [size_closeServer]
    exact hl j (List.mem_cons_of_mem _ hj)

theorem follows_close : (m.close).Follows m.Move := by
  intro w
  have h := follows_closeServers (m := m) (List.range w.registry.size) none w
    fun i hi => List.mem_range.mp hi
  simp only [close, registry, Act.bind_apply]
  cases he : (m.closeServers none (List.range w.registry.size) w).1 <;> exact h

end Manager

/-! ## Searches -/

namespace Search

variable {N O : Type} (s : Search N O)

theorem fetches_connectReferral (r : Referral) :
    (s.connectReferral r).Follows s.manager.Fetch := by
  refine .bind (Manager.fetches_connectionForReferral r) fun a => ?_
  rcases a with e | (_ | conn) <;> exact .pure _

theorem fetches_resolve (base : Dn) (last : Option Referral) :
    (s.resolve base last).Follows s.manager.Fetch := by
  cases last with
  | none => exact Manager.fetches_connection base
  | some r => exact s.fetches_connectReferral r

theorem follows_connectReferral (r : Referral) :
    (s.connectReferral r).Follows s.manager.Move :=
  Manager.follows_move (s.fetches_connectReferral r)

theorem follows_resolve (base : Dn) (last : Option Referral) :
    (s.resolve base last).Follows s.manager.Move :=
  Manager.follows_move (s.fetches_resolve base last)

theorem follows_wait (failures : UInt32) :
    (s.wait (N := N) failures).Follows s.manager.Move := fun w =>
  .head (.draw w) (.single (.pause _ _ _))

theorem follows_after (base : Dn) (failures : UInt32) (conn : Connection)
    (o : Except ClientError PassOutcome) :
    Searching.Follows s.manager.Move (s.after base failures conn o) := by
  rcases o with e | (_ | _ | _ | r)
  · exact .pure _
  · exact .pure _
  · exact .bind (.lift (s.follows_wait failures)) fun _ => .pure _
  · refine .bind (.lift (.of_step fun w => .hangUp _ w)) fun _ => ?_
    refine .bind (.lift (s.follows_wait failures)) fun _ => .bind .get fun p => ?_
    exact .bind (.lift (s.follows_resolve base p.lastReferral)) fun _ => .pure _
  · exact .bind (.lift (s.follows_connectReferral r)) fun _ => .pure _

theorem follows_discard (c : CursorId) :
    (s.manager.transport.discard c).Follows s.manager.Talk := by
  refine .bind (fun _ => .refl) fun ended => ?_
  cases ended with
  | true => exact .pure _
  | false => exact .of_step fun w => .cancelNow c w

theorem follows_release (c : CursorId) :
    (s.manager.transport.release c).Follows s.manager.Talk := by
  refine .bind (fun _ => .refl) fun ended => ?_
  cases ended with
  | true => exact .pure _
  | false => exact .bind (.of_step fun w => .giveUp c w) fun _ => .pure _

theorem follows_hand (x : O) : Searching.Follows s.manager.Talk (s.hand (N := N) x) :=
  .bind (.modify _) fun _ => .bind .get fun _ =>
    .bind (.lift (.of_step fun w => .handed _ w)) fun _ => .pure _

theorem follows_stream (c : CursorId) (fuel : Nat) :
    Searching.Follows s.manager.Talk (s.stream c fuel) := by
  induction fuel with
  | zero => exact .pure _
  | succ fuel ih =>
    refine .bind (.lift (.of_step fun w => .advance c w)) fun a => ?_
    rcases a with f | (_ | (e | urls | _))
    · exact .bind (.lift (s.follows_discard c)) fun _ => .pure _
    · exact .pure _
    · refine .bind (.modify _) fun _ => ?_
      cases s.consumer.toObject e with
      | error err => exact .bind (.lift (s.follows_discard c)) fun _ => .pure _
      | ok x =>
        refine .bind (s.follows_hand x) fun more => ?_
        cases more with
        | true => exact ih
        | false => exact .bind (.lift (.of_step fun w => .giveUp c w)) fun _ => .pure _
    · exact ih
    · exact ih

theorem follows_pass (request : SearchRequest) (session : SessionId) (fuel : Nat) :
    Searching.Follows s.manager.Talk (s.pass request session fuel) := by
  refine .bind (.lift (.of_step fun w => .start session request w)) fun a => ?_
  cases a with
  | error f => exact .pure _
  | ok c =>
    refine .bind (s.follows_stream c fuel) fun o => ?_
    rcases o with _ | (_ | e)
    · exact .pure _
    · refine .bind (.lift (.bind (.of_step fun w => .terminal c w) fun _ => ?_)) fun _ => .pure _
      exact .bind (s.follows_release c) fun _ => .pure _
    · exact .pure _

/-- A pass leaves the registry as it is. -/
theorem registry_pass (request : SearchRequest) (session : SessionId) (fuel : Nat)
    (p : Progress O) (w : World N) :
    (s.pass request session fuel p w).2.registry = w.registry := by
  have h : Act.Follows s.manager.Talk (s.pass request session fuel p) :=
    s.follows_pass request session fuel p
  exact h.keeps (f := World.registry) (fun _ _ hs => hs.registry_eq) w

theorem follows_outcome (conn : Connection) (e : PassEnd) :
    Searching.Follows s.manager.Work (s.outcome conn e) :=
  .bind (.modify _) fun _ => .bind (.lift (.of_step fun w => .passed e w)) fun _ =>
    .bind (.lift fun _ => .refl) fun _ => .pure _

theorem follows_turn (base : Dn) (request : SearchRequest) (fuel : Nat) (failures : UInt32)
    (conn : Connection) :
    Searching.Follows s.manager.Work (s.turn base request fuel failures conn) := by
  refine .bind .get fun p => ?_
  cases s.options.retry.allowsAttempt (p.attempts + 1) with
  | false => exact .pure _
  | true =>
    have hpass := s.follows_pass request conn.session fuel
    have hwork : Searching.Follows s.manager.Work (s.pass request conn.session fuel) :=
      fun p => (hpass p).mono fun _ _ => Manager.Talk.work
    refine .bind (.modify _) fun _ => .bind hwork fun o => ?_
    cases o with
    | none => exact .pure _
    | some e =>
      refine .bind (s.follows_outcome conn e) fun o => .bind (fun p => ?_) fun _ => .pure _
      exact Manager.follows_work (s.follows_after base failures conn o p)

theorem follows_passes (base : Dn) (request : SearchRequest) (fuel : Nat) (failures : UInt32)
    (conn : Connection) :
    Searching.Follows s.manager.Work (s.passes base request fuel failures conn) := by
  induction fuel generalizing failures conn with
  | zero => exact .pure _
  | succ fuel ih =>
    refine .bind (s.follows_turn base request fuel failures conn) fun t => ?_
    rcases t with _ | (answer | ⟨failures, conn⟩)
    · exact .pure _
    · exact .pure _
    · exact ih failures conn

theorem fetches_firstConnection (base : Dn) :
    (s.firstConnection base).Follows s.manager.Fetch := by
  cases h : s.connection with
  | none =>
    have he : s.firstConnection base = s.resolve base none := by simp only [firstConnection, h]
    rw [he]
    exact s.fetches_resolve base none
  | some conn =>
    have he : s.firstConnection base = pure (.ok conn) := by simp only [firstConnection, h]
    rw [he]
    exact .pure _

theorem follows_firstConnection (base : Dn) :
    (s.firstConnection base).Follows s.manager.Move :=
  Manager.follows_move (s.fetches_firstConnection base)

theorem follows_run (base : Dn) (filter : String) (scope : Scope) (attributes : List String)
    (fuel : Nat) :
    Searching.Follows s.manager.Work (s.run base filter scope attributes fuel) := by
  refine .bind (.modify _) fun _ => ?_
  refine .bind (.lift (Manager.follows_work (s.follows_firstConnection base))) fun a => ?_
  cases a with
  | error e => exact .pure _
  | ok conn => exact s.follows_passes base _ fuel 0 conn

end Search

end DirectoryClient
