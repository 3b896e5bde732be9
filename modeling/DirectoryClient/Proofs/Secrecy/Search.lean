import DirectoryClient.Proofs.Secrecy.Manager
import DirectoryClient.Search.Loop

/-!
# Two searches with different passwords

* `Search.Twin`    the same search on two managers that differ in their passwords;
* `Twin.stream`    the same responses are read, by induction on the bound;
* `Twin.pass`      a pass ends in the same way;
* `Twin.turn`      the same follows it;
* `Twin.run`       the whole search has the same answer and comes equally far.
-/

namespace DirectoryClient

section
variable {N N' O : Type} {P : String → String → Prop} {R : N → N' → Prop}

structure Search.Twin (P : String → String → Prop) (R : N → N' → Prop) (s : Search N O)
    (s' : Search N' O) : Prop where
  manager : s.manager.Twin P R s'.manager
  options : s.options = s'.options
  classifier : s.classifier = s'.classifier
  consumer : s.consumer = s'.consumer
  connection : s.connection = s'.connection

namespace Search.Twin

variable {s : Search N O} {s' : Search N' O} (h : s.Twin P R s')
include h

/-! ## Judging the end of a pass -/

theorem judge (e : PassEnd) {r r' : ServerRecord} (hr : r.Twin P r') :
    s.judge e r = s'.judge e r' := by
  have hhost : r.host = r'.host := by rw [hr.rest]
  have hport : r.port = r'.port := by rw [hr.rest]
  cases e with
  | stopped => rfl
  | failed f =>
    rw [Search.judge, Search.judge, Search.onFailure, Search.onFailure, h.classifier, hhost, hport]
  | unmapped e => rfl
  | ended result =>
    cases result with
    | none => rfl
    | some result =>
      rw [Search.judge, Search.judge, Search.onResult, Search.onResult, h.classifier, h.options,
        hhost, hport]

theorem outcome (conn : Connection) (e : PassEnd) :
    Searching.Agree P R (s.outcome conn e) (s'.outcome conn e) := by
  rw [Search.outcome, Search.outcome, h.options]
  refine (Searching.Agree.modify _).next fun _ => ?_
  refine (Searching.Agree.lift (.record _)).next fun _ => ?_
  -- the two records differ in their secrets, which judging does not read
  refine .liftBind (Manager.agree_server conn.server) fun x x' hx => ?_
  rw [h.judge e hx.record]
  exact .pure _

/-! ## One pass -/

theorem hand (x : O) : Searching.Agree P R (s.hand x) (s'.hand x) := by
  rw [Search.hand, Search.hand, h.consumer]
  refine (Searching.Agree.modify _).next fun _ => Searching.Agree.get.next fun p => ?_
  exact (Searching.Agree.lift (.record _)).next fun _ => .pure _

theorem stream (c : CursorId) (fuel : Nat) :
    Searching.Agree P R (s.stream c fuel) (s'.stream c fuel) := by
  have ht := h.manager.transport
  induction fuel with
  | zero => exact .pure none
  | succ fuel ih =>
    -- the answer is the same on both sides, and it alone says what comes next
    refine (Searching.Agree.lift (ht.advance c)).next fun answer => ?_
    rcases answer with f | _ | (e | _ | _)
    · exact (Searching.Agree.lift (ht.discard c)).next fun _ => .pure _
    · exact .pure _
    · refine (Searching.Agree.modify _).next fun _ => ?_
      rw [h.consumer]
      cases s'.consumer.toObject e with
      | error err => exact (Searching.Agree.lift (ht.discard c)).next fun _ => .pure _
      | ok x =>
        refine (h.hand x).next fun more => ?_
        cases more with
        | true => exact ih
        | false => exact (Searching.Agree.lift (ht.giveUp c)).next fun _ => .pure _
    · exact ih
    · exact ih

theorem ending (c : CursorId) : Act.Agree P R Eq (s.ending c) (s'.ending c) :=
  (h.manager.transport.terminal c).next fun _ =>
    (h.manager.transport.release c).next fun _ => .pure rfl

theorem pass (request : SearchRequest) (session : SessionId) (fuel : Nat) :
    Searching.Agree P R (s.pass request session fuel) (s'.pass request session fuel) := by
  refine (Searching.Agree.lift (h.manager.transport.start session request)).next fun answer => ?_
  cases answer with
  | error f => exact .pure _
  | ok c =>
    refine (h.stream c fuel).next fun e => ?_
    rcases e with _ | (_ | e)
    · exact .pure _
    · exact (Searching.Agree.lift (h.ending c)).next fun _ => .pure _
    · exact .pure _

/-! ## From pass to pass -/

theorem connectReferral (referral : Referral) :
    Act.Agree P R Eq (s.connectReferral referral) (s'.connectReferral referral) := by
  refine (h.manager.connectionForReferral referral).next fun answer => ?_
  rcases answer with e | _ | conn <;> exact .pure rfl

theorem resolve (base : Dn) (last : Option Referral) :
    Act.Agree P R Eq (s.resolve base last) (s'.resolve base last) := by
  cases last with
  | none => exact h.manager.connection base
  | some referral => exact h.connectReferral referral

theorem wait (failures : UInt32) : Act.Agree P R Eq (s.wait failures) (s'.wait failures) := by
  rw [Search.wait, Search.wait, h.options]
  exact .pause _ _

theorem after (base : Dn) (failures : UInt32) (conn : Connection)
    (outcome : Except ClientError PassOutcome) :
    Searching.Agree P R (s.after base failures conn outcome)
      (s'.after base failures conn outcome) := by
  have ht := h.manager.transport
  rcases outcome with e | (_ | _ | _ | referral)
  · exact .pure _
  · exact .pure _
  · exact (Searching.Agree.lift (h.wait failures)).next fun _ => .pure _
  · refine (Searching.Agree.lift (ht.hangUp conn.session)).next fun _ => ?_
    refine (Searching.Agree.lift (h.wait failures)).next fun _ => ?_
    refine Searching.Agree.get.next fun p => ?_
    exact (Searching.Agree.lift (h.resolve base p.lastReferral)).next fun _ => .pure _
  · exact (Searching.Agree.lift (h.connectReferral referral)).next fun _ => .pure _

theorem turn (base : Dn) (request : SearchRequest) (fuel : Nat) (failures : UInt32)
    (conn : Connection) :
    Searching.Agree P R (s.turn base request fuel failures conn)
      (s'.turn base request fuel failures conn) := by
  have hexhaustion : s.exhaustion base = s'.exhaustion base := by
    rw [Search.exhaustion, Search.exhaustion, h.options]
  refine Searching.Agree.get.next fun p => ?_
  rw [h.options, hexhaustion]
  by_cases hp : s'.options.retry.allowsAttempt (p.attempts + 1) = true
  · rw [if_pos hp, if_pos hp]
    refine (Searching.Agree.modify _).next fun _ => ?_
    refine (h.pass request conn.session fuel).next fun e => ?_
    cases e with
    | none => exact .pure _
    | some e =>
      refine (h.outcome conn e).next fun outcome => ?_
      exact (h.after base failures conn outcome).next fun _ => .pure _
  · rw [if_neg hp, if_neg hp]
    exact .pure _

theorem passes (base : Dn) (request : SearchRequest) (fuel : Nat) (failures : UInt32)
    (conn : Connection) :
    Searching.Agree P R (s.passes base request fuel failures conn)
      (s'.passes base request fuel failures conn) := by
  induction fuel generalizing failures conn with
  | zero => exact .pure none
  | succ fuel ih =>
    refine (h.turn base request fuel failures conn).next fun turn => ?_
    rcases turn with _ | (answer | ⟨failures, conn⟩)
    · exact .pure _
    · exact .pure _
    · exact ih failures conn

/-- The same answer, the same progress and the same events, for every bound. -/
theorem run (base : Dn) (filter : String) (scope : Scope) (attributes : List String) (fuel : Nat) :
    Searching.Agree P R (s.run base filter scope attributes fuel)
      (s'.run base filter scope attributes fuel) := by
  have hfirst : Act.Agree P R Eq (s.firstConnection base) (s'.firstConnection base) := by
    rw [Search.firstConnection, Search.firstConnection, h.connection]
    cases s'.connection with
    | none => exact h.resolve base none
    | some conn => exact .pure rfl
  refine (Searching.Agree.modify _).next fun _ => ?_
  refine (Searching.Agree.lift hfirst).next fun answer => ?_
  cases answer with
  | error e => exact .pure _
  | ok conn =>
    rw [h.options]
    exact h.passes base _ fuel 0 conn

end Search.Twin

end

end DirectoryClient
