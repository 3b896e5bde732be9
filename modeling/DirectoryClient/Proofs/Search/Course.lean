import DirectoryClient.Proofs.Search.Bounds
import DirectoryClient.Proofs.Search.Delivery

/-!
# The course of a search

Apart from its bounds a search is one pass after another, and what comes of each.

* `Round`                  a pass that was run, and what followed;
* `Search.Turns`           a pass and the steps between it and the next;
* `Search.Course`          the passes from a connection on;
* `Search.Runs`            a whole search (`Runs.comes`);
* `Recounts`               what a record says about rounds;
* `Turns.exists_log`, `Turns.attempts_eq`   what one round leaves;
* `Runs.exists_log`        the record of a search recounts its rounds.
-/

namespace DirectoryClient

open Relation

/-! ## Courses -/

/-- a pass that was run -/
structure Round where
  ending : PassEnd
  outcome : Except ClientError PassOutcome
  /-- what followed -/
  turn : Turn

/-- whether the pass itself ended the search -/
def Round.Settled (r : Round) : Prop := r.outcome = .ok .done ∨ ∃ err, r.outcome = .error err

/-- whether there was a connection for another pass -/
def Round.LedOn (r : Round) : Prop := ∃ failures conn, r.turn = .again failures conn

/-! ## Records of rounds -/

/-- A record, in the order of time, has the ends of these rounds and one request for each. -/
structure Recounts (request : SearchRequest) (rounds : List Round) (l : List Event) : Prop where
  ends : l.filterMap Event.passEnd? = rounds.map Round.ending
  requests : l.filterMap Event.request? = List.replicate rounds.length request

theorem Recounts.append {request : SearchRequest} {rounds rounds' : List Round}
    {l l' : List Event} (h : Recounts request rounds l) (h' : Recounts request rounds' l') :
    Recounts request (rounds ++ rounds') (l ++ l') where
  ends := by rw [List.filterMap_append, h.ends, h'.ends, List.map_append]
  requests := by
    rw [List.filterMap_append, h.requests, h'.requests, List.replicate_append_replicate,
      List.length_append]

theorem Between.recounts {l : List Event} (h : Between l) (request : SearchRequest) :
    Recounts request [] l where
  ends := h.filterMap_eq
  requests := by
    refine List.filterMap_eq_nil_iff.mpr fun e he => ?_
    have hb := h e he
    cases e with
    | search session request a => exact absurd hb id
    | _ => rfl

namespace Search

variable {N O : Type} (s : Search N O)

/-- One pass and the steps between it and the next, whatever the bound on responses. -/
structure Turns (base : Dn) (request : SearchRequest) (failures : UInt32) (conn : Connection)
    (p : Progress O) (w : World N) (r : Round) (p' : Progress O) (w' : World N) : Prop where
  allowed : s.options.retry.allowsAttempt (p.attempts + 1) = true
  passed : ∃ p₁ w₁ p₂ w₂,
    Searching.Comes (s.pass request conn.session) p.beginning w r.ending p₁ w₁ ∧
    s.outcome conn r.ending p₁ w₁ = ((r.outcome, p₂), w₂) ∧
    s.after base failures conn r.outcome p₂ w₂ = ((r.turn, p'), w')

/-- The passes of a search from a connection on, and its answer. -/
inductive Course (base : Dn) (request : SearchRequest) :
    UInt32 → Connection → Progress O → World N → List Round → Except ClientError Unit →
      Progress O → World N → Prop
  /-- no more attempts are allowed -/
  | exhausted {failures : UInt32} {conn : Connection} {p : Progress O} {w : World N}
      (h : s.options.retry.allowsAttempt (p.attempts + 1) = false) :
      Course base request failures conn p w [] (.error (s.exhaustion base)) p w
  | finished {failures : UInt32} {conn : Connection} {p p' : Progress O} {w w' : World N}
      {r : Round} {answer : Except ClientError Unit}
      (h : s.Turns base request failures conn p w r p' w') (hr : r.turn = .finished answer) :
      Course base request failures conn p w [r] answer p' w'
  | again {failures failures' : UInt32} {conn conn' : Connection} {p p₁ p' : Progress O}
      {w w₁ w' : World N} {r : Round} {rounds : List Round} {answer : Except ClientError Unit}
      (h : s.Turns base request failures conn p w r p₁ w₁)
      (hr : r.turn = .again failures' conn')
      (hrest : Course base request failures' conn' p₁ w₁ rounds answer p' w') :
      Course base request failures conn p w (r :: rounds) answer p' w'

/-- A whole search, and its answer. -/
inductive Runs (base : Dn) (request : SearchRequest) (p : Progress O) (w : World N) :
    List Round → Except ClientError Unit → Progress O → World N → Prop
  /-- there is no connection for the first pass -/
  | unconnected {err : ClientError} {w' : World N}
      (h : s.firstConnection base w = (.error err, w')) :
      Runs base request p w [] (.error err) p.restarted w'
  | connected {conn : Connection} {w₁ w' : World N} {rounds : List Round}
      {answer : Except ClientError Unit} {p' : Progress O}
      (h : s.firstConnection base w = (.ok conn, w₁))
      (hcourse : s.Course base request 0 conn p.restarted w₁ rounds answer p' w') :
      Runs base request p w rounds answer p' w'

variable {s} {base : Dn} {request : SearchRequest} {failures : UInt32} {conn : Connection}
  {p p' : Progress O} {w w' : World N} {r : Round} {rounds : List Round}
  {answer : Except ClientError Unit}

/-! ## Bounds that are large enough -/

theorem Turns.comes (h : s.Turns base request failures conn p w r p' w') :
    Searching.Comes (fun fuel => s.turn base request fuel failures conn) p w r.turn p' w' := by
  obtain ⟨hallowed, p₁, w₁, p₂, w₂, hpass, houtcome, hafter⟩ := h
  refine .step rfl ?_
  simp only [hallowed, if_true]
  exact .step rfl (.bind hpass (.step houtcome (.step hafter .pure)))

theorem comes_exhausted (h : s.options.retry.allowsAttempt (p.attempts + 1) = false) :
    Searching.Comes (fun fuel => s.turn base request fuel failures conn) p w
      (.finished (.error (s.exhaustion base))) p w := by
  refine .step rfl ?_
  simp only [h, Bool.false_eq_true, if_false]
  exact .pure

theorem Course.comes (h : s.Course base request failures conn p w rounds answer p' w') :
    Searching.Comes (fun fuel => s.passes base request fuel failures conn) p w answer p' w' := by
  induction h with
  | exhausted h => exact .succ (.bind (comes_exhausted h) .pure)
  | finished h hr =>
    have hturn := h.comes
    rw [hr] at hturn
    exact .succ (.bind hturn .pure)
  | again h hr hrest ih =>
    have hturn := h.comes
    rw [hr] at hturn
    exact .succ (.bind hturn ih)

theorem Runs.comes {filter : String} {scope : Scope} {attributes : List String}
    (h : s.Runs base (s.options.request base filter scope attributes) p w rounds answer p' w') :
    Searching.Comes (s.run base filter scope attributes) p w answer p' w' := by
  cases h with
  | unconnected h => exact .step rfl (.step (Searching.lift_apply h) .pure)
  | connected h hcourse => exact .step rfl (.step (Searching.lift_apply h) hcourse.comes)

/-! ## What rounds leave -/

theorem Turns.exists_log (h : s.Turns base request failures conn p w r p' w') :
    ∃ new, w'.log = new ++ w.log ∧ Recounts request [r] new.reverse := by
  obtain ⟨-, p₁, w₁, p₂, w₂, hpass, houtcome, hafter⟩ := h
  obtain ⟨fuel, hpass⟩ := hpass.exists_eq
  obtain ⟨l₁, hl₁, objects, -, hhands⟩ :=
    (s.delivery_of_pass request conn.session fuel _).of_eq hpass
  obtain ⟨l₂, hl₂, -, rfl⟩ := (s.leaves_noted conn r.ending p₁).of_eq houtcome
  obtain ⟨l₃, hl₃, hgap, -⟩ := (s.leaves_after base failures conn r.outcome p₂).of_eq hafter
  have hpassed : Recounts request [r] (l₁.reverse ++ [.passed r.ending]) := by
    refine ⟨?_, ?_⟩
    · rw [List.filterMap_append, hhands.ends_eq]
      rfl
    · rw [List.filterMap_append, hhands.requests_eq]
      rfl
  refine ⟨l₃ ++ ([.passed r.ending] ++ l₁), ?_, ?_⟩
  · rw [hl₃, hl₂, hl₁, List.append_assoc, List.append_assoc]
  · have h := hpassed.append (hgap.reverse.recounts request)
    simpa using h

theorem Turns.attempts_eq (h : s.Turns base request failures conn p w r p' w') :
    p'.attempts = p.attempts + 1 := by
  obtain ⟨-, p₁, w₁, p₂, w₂, hpass, houtcome, hafter⟩ := h
  obtain ⟨fuel, hpass⟩ := hpass.exists_eq
  obtain ⟨-, -, objects, hgains, -⟩ := (s.delivery_of_pass request conn.session fuel _).of_eq hpass
  obtain ⟨-, -, rfl, -⟩ := (s.leaves_noted conn r.ending p₁).of_eq houtcome
  obtain ⟨-, -, -, rfl, -⟩ := (s.leaves_after base failures conn r.outcome _).of_eq hafter
  rw [Progress.attempts_noting, hgains.attempts]
  rfl

/-- Only a pass that did not end the search is followed by another one. -/
theorem Turns.not_settled (h : s.Turns base request failures conn p w r p' w') (hr : r.LedOn) :
    ¬ r.Settled := by
  obtain ⟨-, p₁, w₁, p₂, w₂, -, -, hafter⟩ := h
  obtain ⟨-, -, -, -, -, hagain⟩ := (s.leaves_after base failures conn r.outcome p₂).of_eq hafter
  obtain ⟨failures', conn', hr⟩ := hr
  obtain ⟨x, hx, hne⟩ := hagain failures' conn' hr
  rintro (hd | ⟨err, he⟩)
  · rw [hx] at hd
    exact hne (Except.ok.inj hd)
  · rw [hx] at he
    cases he

theorem Turns.work (h : s.Turns base request failures conn p w r p' w') :
    ReflTransGen s.manager.Work w w' := by
  obtain ⟨fuel, hturn⟩ := h.comes.exists_eq
  have hw := s.follows_turn base request fuel failures conn p w
  rwa [hturn] at hw

theorem Course.exists_log (h : s.Course base request failures conn p w rounds answer p' w') :
    ∃ new, w'.log = new ++ w.log ∧ Recounts request rounds new.reverse := by
  induction h with
  | exhausted h => exact ⟨[], rfl, rfl, rfl⟩
  | finished h hr => exact h.exists_log
  | again h hr hrest ih =>
    obtain ⟨new, hlog, hnew⟩ := h.exists_log
    obtain ⟨new', hlog', hnew'⟩ := ih
    refine ⟨new' ++ new, by rw [hlog', hlog, List.append_assoc], ?_⟩
    rw [List.reverse_append]
    exact hnew.append hnew'

theorem Runs.exists_log (h : s.Runs base request p w rounds answer p' w') :
    ∃ new, w'.log = new ++ w.log ∧ Recounts request rounds new.reverse := by
  obtain ⟨gap, hgap, hbetween⟩ := Manager.leaves_of_follows (s.follows_firstConnection base) w
  have hfirst := hbetween.reverse.recounts request
  cases h with
  | unconnected h =>
    rw [h] at hgap
    exact ⟨gap, hgap, hfirst⟩
  | connected h hcourse =>
    rw [h] at hgap
    obtain ⟨new, hlog, hnew⟩ := hcourse.exists_log
    refine ⟨new ++ gap, by rw [hlog, hgap, List.append_assoc], ?_⟩
    rw [List.reverse_append]
    exact hfirst.append hnew

/-- Every round of a course is a turn of the search. -/
theorem Course.exists_turns (h : s.Course base request failures conn p w rounds answer p' w') :
    ∀ r ∈ rounds, ∃ failures conn p w p' w', s.Turns base request failures conn p w r p' w' := by
  induction h with
  | exhausted h => exact List.forall_mem_nil _
  | finished h hr => exact List.forall_mem_singleton.mpr ⟨_, _, _, _, _, _, h⟩
  | again h hr hrest ih => exact List.forall_mem_cons.mpr ⟨⟨_, _, _, _, _, _, h⟩, ih⟩

/-- A course ends when no more attempts are allowed, or its last round has the answer. -/
theorem Course.cases_end (h : s.Course base request failures conn p w rounds answer p' w') :
    ((∀ r ∈ rounds, r.LedOn) ∧ answer = .error (s.exhaustion base) ∧
      s.options.retry.allowsAttempt (p'.attempts + 1) = false) ∨
    ∃ r ∈ rounds, r.turn = .finished answer := by
  induction h with
  | exhausted h => exact .inl ⟨List.forall_mem_nil _, rfl, h⟩
  | finished h hr => exact .inr ⟨_, List.mem_singleton_self _, hr⟩
  | again h hr hrest ih =>
    rcases ih with ⟨hled, hanswer, hp⟩ | ⟨r, hmem, hanswer⟩
    · exact .inl ⟨List.forall_mem_cons.mpr ⟨⟨_, _, hr⟩, hled⟩, hanswer, hp⟩
    · exact .inr ⟨r, List.mem_cons_of_mem _ hmem, hanswer⟩

end Search

end DirectoryClient
