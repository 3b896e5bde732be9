import DirectoryClient.Proofs.Search.Annals
import DirectoryClient.Proofs.Scripted.Lawful
import Mathlib.Algebra.GroupWithZero.Nat

/-!
# The pauses of a search

A search pauses after each pass that failed and never else, and the pauses are numbered through from
its beginning to its end.

* `Annals.exists_draws`   the pauses are those of the first retries, one for each failed pass;
* `waited_eq`             the time that is waited is that of the pauses;
* `delay_of_steady`       without jitter a delay is as long as its number says;
* `pauses_of_run`         the pauses of every search, finished or not.
-/

namespace DirectoryClient

def Event.pause? : Event → Option (UInt32 × UInt64)
  | .pause retry length => some (retry, length)
  | _ => none

/-! ## Pauses in annals -/

namespace Annals

variable {policy : RetryPolicy} {request : SearchRequest} {done : Bool} {legs : List Leg}
  {l : List Event}

/-- A failed pass is followed by one pause, any other one by none. -/
theorem pauses_of_interlude {failures : UInt32} {conn : Connection}
    {o : Except ClientError PassOutcome} (h : Search.Interlude policy failures conn o l) :
    if (Leg.mk conn (some o)).failed then
      ∃ draw, l.filterMap Event.pause? = [(failures, policy.delay failures draw)]
    else l.filterMap Event.pause? = [] := by
  have hfetched {gap : List Event} (hg : Fetched gap) : gap.filterMap Event.pause? = [] :=
    hg.filterMap_eq fun e he => by cases e <;> trivial
  cases h with
  | failed err => rfl
  | done => rfl
  | repeated draw => exact ⟨draw, rfl⟩
  | reconnected a draw hl => exact ⟨draw, congrArg (_ :: ·) (hfetched hl)⟩
  | referred referral hl => exact hfetched hl

/-- The pauses are those of the first retries, one for each failed pass. -/
theorem exists_draws (h : Annals policy request done legs l) :
    ∃ draws : List UInt64, draws.length = legs.countP Leg.failed ∧
      l.filterMap Event.pause? = draws.mapIdx fun k draw =>
        (UInt32.ofNat k, policy.delay (UInt32.ofNat k) draw) := by
  have hsent {session : SessionId} {pass : List Event} (hs : Sent session request pass) :
      pass.filterMap Event.pause? = [] :=
    hs.filterMap_eq (fun e he => by cases e <;> trivial) fun _ => rfl
  induction h with
  | first hg => exact ⟨[], rfl, hg.filterMap_eq fun e he => by cases e <;> trivial⟩
  | @pass legs l pass gap conn e o h hs hi ih =>
    obtain ⟨draws, hlen, hdraws⟩ := ih
    have hpauses : (l ++ (pass ++ .passed e :: gap)).filterMap Event.pause? =
        l.filterMap Event.pause? ++ gap.filterMap Event.pause? := by
      rw [List.filterMap_append, List.filterMap_append, hsent hs]
      rfl
    have hgap := pauses_of_interlude hi
    rw [hpauses, hdraws, List.countP_append, List.countP_singleton]
    split at hgap
    case isTrue hfailed =>
      obtain ⟨draw, hgap⟩ := hgap
      refine ⟨draws ++ [draw], ?_, ?_⟩
      · rw [List.length_append, hlen, List.length_singleton, if_pos hfailed]
      · rw [hgap, List.mapIdx_concat, hlen]
    case isFalse hfailed =>
      refine ⟨draws, ?_, ?_⟩
      · rw [hlen, if_neg hfailed, Nat.add_zero]
      · rw [hgap, List.append_nil]
  | cut h hs ih =>
    obtain ⟨draws, hlen, hdraws⟩ := ih
    refine ⟨draws, ?_, ?_⟩
    · rw [hlen, List.countP_append]
      rfl
    · rw [List.filterMap_append, hsent hs, List.append_nil, hdraws]

end Annals

/-! ## The time that is waited -/

theorem waited_eq (l : List Event) :
    waited l = ((l.filterMap Event.pause?).map fun x => x.2.toNat).sum := by
  have hfrom (n : Nat) : l.foldl (fun n e => n + e.duration) n =
      n + ((l.filterMap Event.pause?).map fun x => x.2.toNat).sum := by
    induction l generalizing n with
    | nil => rfl
    | cons e l ih =>
      rw [List.foldl_cons, ih]
      cases e with
      | pause retry length => exact Nat.add_assoc n length.toNat _
      | _ => rfl
  rw [waited, hfrom, Nat.zero_add]

/-- Without jitter nothing about a delay is drawn. -/
theorem RetryPolicy.delay_of_steady {policy : RetryPolicy} (h : policy.jitter = false)
    (retry : UInt32) (draw : UInt64) : policy.delay retry draw = policy.delay retry 0 := by
  simp [delay, h]

theorem sum_of_steady {policy : RetryPolicy} (h : policy.jitter = false) (draws : List UInt64) :
    ((draws.mapIdx fun k draw => (UInt32.ofNat k, policy.delay (UInt32.ofNat k) draw)).map
      fun x => x.2.toNat).sum =
    ((List.range draws.length).map fun k => (policy.delay (.ofNat k) 0).toNat).sum := by
  congr 1
  refine List.ext_getElem (by simp) fun k hk hk' => ?_
  simp [RetryPolicy.delay_of_steady h]

namespace Search

variable {N O : Type} (s : Search N O)

/-- **A search pauses once after each pass that failed: right away, or when the session of that pass
is closed, and before anything else.**  Nothing but failed passes counts, so that the pauses are those
of the first retries; without jitter all of them together last as long as the delays of these. -/
theorem pauses_of_run (base : Dn) (filter : String) (scope : Scope) (attributes : List String)
    (fuel : Nat) (p : Progress O) (w : World N) :
    ∃ (legs : List Leg) (done : Bool) (new : List Event) (draws : List UInt64),
      s.Walks base (s.options.request base filter scope attributes) p w legs
        (s.run base filter scope attributes fuel p w).1.1
        (s.run base filter scope attributes fuel p w).1.2
        (s.run base filter scope attributes fuel p w).2 ∧
      (s.run base filter scope attributes fuel p w).2.events = w.events ++ new ∧
      Annals s.options.retry (s.options.request base filter scope attributes) done legs new ∧
      draws.length = legs.countP Leg.failed ∧
      (new.filterMap Event.pause? = draws.mapIdx fun k draw =>
        (UInt32.ofNat k, s.options.retry.delay (UInt32.ofNat k) draw)) ∧
      (legs.length < UInt32.size → ∀ k < draws.length, (UInt32.ofNat k).toNat = k) ∧
      (s.options.retry.jitter = false → waited new = ((List.range draws.length).map fun k =>
        (s.options.retry.delay (.ofNat k) 0).toNat).sum) := by
  obtain ⟨legs, hwalks⟩ := s.walks_run base filter scope attributes fuel p w
  obtain ⟨new, done, hevents, hannals, -⟩ := hwalks.exists_annals
  obtain ⟨draws, hlen, hdraws⟩ := hannals.exists_draws
  refine ⟨legs, done, new, draws, hwalks, hevents, hannals, hlen, hdraws, fun hsize k hk => ?_,
    fun hjitter => ?_⟩
  · have hle : legs.countP Leg.failed ≤ legs.length := List.countP_le_length
    exact UInt32.toNat_ofNat_of_lt' (by omega)
  · rw [waited_eq, hdraws, sum_of_steady hjitter]

end Search

namespace Scripted

/-- a search with delays that double -/
def pacing : Search Network Entry where
  manager := client
  options := { retry := { multiplier := 2.0, jitter := false } }
  classifier := .standard
  consumer := ⟨.ok, fun _ => true⟩

def paced : (Option (Except ClientError Unit) × Progress Entry) × World Network :=
  pacing.run Dn.root "(objectClass=*)" .subtree [] 5 {} (started unsteady)

/-- Two of its four passes fail, with a referral between them. -/
theorem pauses_of_run_unsteady :
    pacing.options.retry.jitter = false ∧ paced.1.1 = some (.ok ()) ∧
      (paced.2.events.filterMap Event.sent?).length = 4 ∧ waited paced.2.events = 300 ∧
      ((List.range 2).map fun k => (pacing.options.retry.delay (.ofNat k) 0).toNat).sum = 300 := by
  have hanswer : paced.1.1 = some (.ok ()) := by decide +kernel
  have hsent : (paced.2.events.filterMap Event.sent?).length = 4 := by decide +kernel
  have hcount : (paced.2.events.filterMap Event.pause?).length = 2 := by decide +kernel
  have hsum : ((List.range 2).map fun k =>
      (pacing.options.retry.delay (.ofNat k) 0).toNat).sum = 300 := by decide +kernel
  obtain ⟨legs, done, new, draws, hwalks, hevents, hannals, hlen, hdraws, hnumbers, hwaited⟩ :=
    pacing.pauses_of_run Dn.root "(objectClass=*)" .subtree [] 5 {} (started unsteady)
  have hnew : paced.2.events = new := hevents
  have htwo : draws.length = 2 := by rw [← hcount, hnew, hdraws, List.length_mapIdx]
  refine ⟨rfl, hanswer, hsent, ?_, hsum⟩
  rw [hnew, hwaited rfl, htwo, hsum]

end Scripted

end DirectoryClient
