import DirectoryClient.Proofs.Scripted.Lawful
import DirectoryClient.Proofs.Search.Annals

/-!
# How a search ends

The last pass decides whether a search is over, and how; any other pass is one that may be repeated.
Lists of events are in the order of time here.

* `SearchOptions.Verdict`   what the ends of the passes have to do with the answer;
* `Next.repeats`, `Turns.decided`   what one turn decides;
* `Walks.verdict`           what a whole search decides;
* `Searching.Spends`        a search that has no answer has used up its bound (`spends_run`);
* `verdict_of_run`          every search is so, whether or not it has come to an answer.
-/

namespace DirectoryClient

/-! ## Verdicts -/

namespace SearchOptions

variable (o : SearchOptions)

/-- The answer is none as long as there may be another pass. -/
structure Verdict (ends : List PassEnd) (answer : Option (Except ClientError Unit))
    (complete : Bool) : Prop where
  /-- the search succeeds exactly if the last pass settles it -/
  settled : answer = some (.ok ()) ↔ ∃ e, ends.getLast? = some e ∧ o.Settles e
  /-- it is incomplete exactly if the last pass was cut off -/
  cut : complete = false ↔ ∃ e, ends.getLast? = some e ∧ o.Cuts e
  /-- after an error it counts as complete -/
  failed : ∀ err, answer = some (.error err) → complete = true
  /-- no pass is followed by another one but those that may be -/
  repeated : ∀ e ∈ ends.dropLast, o.Repeats e
  /-- any other pass is the last one, and the search has its answer -/
  decided : ∀ e ∈ ends, ¬ o.Repeats e → ends.getLast? = some e ∧ answer.isSome = true

variable {o} {ends : List PassEnd} {e : PassEnd}

/-- All passes may be repeated: the search has failed since, or goes on. -/
theorem Verdict.of_repeats {answer : Option (Except ClientError Unit)}
    (h : ∀ e ∈ ends, o.Repeats e) (ha : answer ≠ some (.ok ())) : o.Verdict ends answer true where
  settled := by
    refine ⟨fun hok => absurd hok ha, ?_⟩
    rintro ⟨e, he, hsettles⟩
    exact absurd hsettles (not_settles_of_repeats (h e (List.mem_of_getLast? he)))
  cut := by
    refine ⟨nofun, ?_⟩
    rintro ⟨e, he, hcuts⟩
    exact absurd (settles_of_cuts hcuts) (not_settles_of_repeats (h e (List.mem_of_getLast? he)))
  failed _ _ := rfl
  repeated e he := h e (List.dropLast_subset ends he)
  decided e he hn := absurd (h e he) hn

/-- The last pass decides. -/
theorem Verdict.of_last {answer : Except ClientError Unit} {complete : Bool}
    (h : ∀ e ∈ ends, o.Repeats e) (hs : answer = .ok () ↔ o.Settles e)
    (hc : complete = false ↔ o.Cuts e) : o.Verdict (ends ++ [e]) (some answer) complete where
  settled := by simpa using hs
  cut := by simpa using hc
  failed err herr := by
    obtain rfl := Option.some.inj herr
    rw [← Bool.not_eq_false, hc]
    exact fun hcuts => absurd (hs.mpr (settles_of_cuts hcuts)) nofun
  repeated := by simpa using h
  decided e' he' hn := by
    rcases List.mem_append.mp he' with hmem | hlast
    · exact absurd (h e' hmem) hn
    · obtain rfl := List.mem_singleton.mp hlast
      exact ⟨List.getLast?_concat, rfl⟩

end SearchOptions

namespace Search

variable {N O : Type} {s : Search N O} {base : Dn} {request : SearchRequest}
  {failures : UInt32} {conn : Connection} {p p' : Progress O} {w w' : World N} {r : Round}
  {legs : List Leg} {a b : Stage N O} {answer : Option (Except ClientError Unit)}

/-! ## What one turn decides -/

theorem Turns.ends_eq (h : s.Turns base request failures conn p w r p' w') :
    ∃ new, w'.events = w.events ++ new ∧ new.filterMap Event.passEnd? = [r.ending] := by
  obtain ⟨new, hlog, hrounds⟩ := h.exists_log
  exact ⟨new.reverse, World.events_of_log hlog, hrounds.ends⟩

/-- A pass that another one follows may be repeated. -/
theorem Next.repeats (hs : s.classifier = .standard) (h : s.Next base request a r b) :
    s.options.Repeats r.ending := by
  obtain ⟨v, x, hpassed, hx, honward⟩ := h.turns.exists_onward h.again
  obtain ⟨record, hjudge⟩ := hpassed.judged
  have hjudged := judged hs r.ending record
  rw [← hjudge, hx] at hjudged
  exact hjudged.repeats honward.failures_eq.1

/-- What a turn decides after which the search is over, if it was complete so far. -/
theorem Turns.decided (hs : s.classifier = .standard)
    (h : s.Turns base request failures conn p w r p' w') (hp : p.complete = true)
    {answer : Except ClientError Unit} (hr : r.turn = .finished answer) :
    (answer = .ok () ↔ s.options.Settles r.ending) ∧
      (p'.complete = false ↔ s.options.Cuts r.ending) := by
  obtain ⟨q, v, hpassed, hafter⟩ := h.exists_passed
  obtain ⟨p₁, hcomplete, -, hq⟩ := hpassed.noted
  obtain ⟨record, hjudge⟩ := hpassed.judged
  obtain ⟨-, -, -, rfl, hok, -⟩ := (s.leaves_after base failures conn r.outcome q).of_eq hafter
  have hjudged := judged hs r.ending record
  rw [← hjudge] at hjudged
  have hfinished : answer = .ok () ↔ r.outcome = .ok .done := by
    rw [← hok, hr]
    exact ⟨congrArg Turn.finished, Turn.finished.inj⟩
  refine ⟨hfinished.trans hjudged.done_iff, ?_⟩
  rw [hq]
  exact Progress.complete_noting (hcomplete.trans hp) _ _

/-! ## What a search decides -/

/-- All passes but the last one may be repeated, and the last one decides. -/
theorem Walks.verdict (hs : s.classifier = .standard)
    (h : s.Walks base request p w legs answer p' w') :
    ∃ new, w'.events = w.events ++ new ∧
      s.options.Verdict (new.filterMap Event.passEnd?) answer p'.complete := by
  refine h.exists_events (P := fun _ l => ∀ e ∈ l.filterMap Event.passEnd?, s.options.Repeats e)
    (Q := fun _ answer p' l =>
      s.options.Verdict (l.filterMap Event.passEnd?) answer p'.complete)
    ?first ?next ?rest ?cut ?finished
  case first =>
    intro gap hgap
    have hnone : gap.filterMap Event.passEnd? = [] :=
      hgap.filterMap_eq fun e he => by cases e <;> trivial
    simp [hnone]
  case next =>
    intro legs a r b l h hr hl
    obtain ⟨new, hw, hnew⟩ := hr.turns.ends_eq
    refine ⟨new, hw, ?_⟩
    rw [List.filterMap_append, hnew]
    exact List.forall_mem_append.mpr ⟨hl, List.forall_mem_singleton.mpr (hr.repeats hs)⟩
  case rest =>
    intro legs answer p' l hl hanswer hcomplete
    rw [hcomplete]
    exact .of_repeats hl hanswer
  case cut =>
    intro legs conn before p' objects l pass hl hsent hhands hcomplete
    rw [List.filterMap_append, hhands.ends_eq, List.append_nil, hcomplete]
    exact .of_repeats hl nofun
  case finished =>
    intro legs a r answer p' w' l h ht hr hl
    obtain ⟨new, hw, hnew⟩ := ht.ends_eq
    obtain ⟨hsettled, hcut⟩ := ht.decided hs h.noted.complete hr
    refine ⟨new, hw, ?_⟩
    rw [List.filterMap_append, hnew]
    exact .of_last hl hsettled hcut

end Search

/-! ## Bounds that are used up -/

section
variable {N O α : Type}

/-- Without an answer there is a line in the record for every unit of the bound. -/
def Searching.Spends (x : Searching N O (Option α)) (fuel : Nat) : Prop :=
  ∀ p, Searching.Leaves x p fun o _ l => o = none → fuel ≤ l.length

end

namespace Search

variable {N O : Type} (s : Search N O)

/-- Each response takes one unit, and it is written down. -/
theorem spends_stream (c : CursorId) (fuel : Nat) : Searching.Spends (s.stream c fuel) fuel := by
  induction fuel with
  | zero => exact fun p => .pure fun _ => Nat.le_refl 0
  | succ fuel ih =>
    intro p
    refine .bind (.lift (.call fun a => ?_))
    have hnext {l : List Event} (h : fuel ≤ l.length) :
        fuel + 1 ≤ (l ++ [Event.next c a]).length := by
      rw [List.length_append]
      exact Nat.succ_le_succ h
    rcases a with f | (_ | (e | urls | _))
    · exact .bind (.lift ((s.leaves_discard c).mono fun _ _ _ => .pure nofun))
    · exact .pure nofun
    · refine .bind (.modify ?_)
      cases s.consumer.toObject e with
      | error err => exact .bind (.lift ((s.leaves_discard c).mono fun _ _ _ => .pure nofun))
      | ok x =>
        refine .bind ((s.leaves_hand x _).mono ?_)
        rintro more _ _ ⟨rfl, -, rfl⟩
        cases more with
        | true =>
          refine (ih _).mono fun _ _ l h ho => hnext ?_
          rw [List.append_nil, List.length_append]
          exact Nat.le_add_right_of_le (h ho)
        | false => exact .bind (.lift (.call fun a => .pure nofun))
    · exact (ih p).mono fun _ _ l h ho => hnext (h ho)
    · exact (ih p).mono fun _ _ l h ho => hnext (h ho)

/-- The request takes a line of its own. -/
theorem spends_pass (request : SearchRequest) (session : SessionId) (fuel : Nat) :
    Searching.Spends (s.pass request session fuel) (fuel + 1) := by
  intro p
  refine .bind (.lift (.call fun a => ?_))
  cases a with
  | error f => exact .pure nofun
  | ok c =>
    refine .bind ((s.spends_stream c fuel p).mono fun o p' l h => ?_)
    rcases o with _ | (_ | e)
    · refine .pure fun _ => ?_
      have hle := h rfl
      simpa using hle
    · exact .bind (.lift ((s.leaves_ending c).mono fun _ _ _ => .pure nofun))
    · exact .pure nofun

/-- A turn that leads to another pass leaves the end of its own. -/
theorem spends_turn (base : Dn) (request : SearchRequest) (fuel : Nat) (failures : UInt32)
    (conn : Connection) (p : Progress O) :
    Searching.Leaves (s.turn base request fuel failures conn) p fun o _ l =>
      (o = none → fuel + 1 ≤ l.length) ∧
        ∀ failures' conn', o = some (.again failures' conn') → 1 ≤ l.length := by
  refine .bind (.get ?_)
  cases s.options.retry.allowsAttempt (p.attempts + 1) with
  | false => exact .pure ⟨nofun, nofun⟩
  | true =>
    refine .bind (.modify (.bind ((s.spends_pass request conn.session fuel _).mono ?_)))
    intro o p' l h
    cases o with
    | none => exact .pure ⟨fun _ => by simpa using h rfl, nofun⟩
    | some e =>
      refine .bind ((s.leaves_noted conn e p').mono ?_)
      rintro o _ _ ⟨rfl, rfl⟩
      refine .bind ((s.leaves_after base failures conn o _).mono fun t _ gap _ => ?_)
      refine .pure ⟨nofun, fun _ _ _ => ?_⟩
      simp only [List.length_append, List.length_singleton]
      omega

theorem spends_passes (base : Dn) (request : SearchRequest) (fuel : Nat) (failures : UInt32)
    (conn : Connection) : Searching.Spends (s.passes base request fuel failures conn) fuel := by
  induction fuel generalizing failures conn with
  | zero => exact fun p => .pure fun _ => Nat.le_refl 0
  | succ fuel ih =>
    intro p
    refine .bind ((s.spends_turn base request fuel failures conn p).mono ?_)
    rintro o p' l ⟨hnone, hagain⟩
    rcases o with _ | (answer | ⟨failures', conn'⟩)
    · exact .pure fun _ => by simpa using hnone rfl
    · exact .pure nofun
    · refine (ih failures' conn' p').mono fun o _ l' h ho => ?_
      have hle := h ho
      have hone := hagain failures' conn' rfl
      rw [List.length_append]
      omega

/-- Nothing but its bound keeps a search from its answer. -/
theorem spends_run (base : Dn) (filter : String) (scope : Scope) (attributes : List String)
    (fuel : Nat) : Searching.Spends (s.run (N := N) base filter scope attributes fuel) fuel := by
  intro p
  have hfirst := Manager.leaves_of_follows (s.follows_firstConnection base)
  refine .bind (.modify (.bind (.lift (hfirst.mono fun a gap _ => ?_))))
  cases a with
  | error err => exact .pure nofun
  | ok conn =>
    refine (s.spends_passes base _ fuel 0 conn _).mono fun o _ l h ho => ?_
    have hle := h ho
    simp only [List.length_append]
    omega

/-- **Whatever its bound, a search succeeds exactly if its last pass settles it, is incomplete exactly
if its last pass was permitted to be cut off, and goes on after no pass but those that may be
repeated.**  So a pass that settles the search, or fails for good, is the last one and gives it its
answer.  A larger bound does not change an answer, and a search without one has used up its bound on
passes that may be repeated and on the responses to the next one. -/
theorem verdict_of_run (hs : s.classifier = .standard) (base : Dn) (filter : String)
    (scope : Scope) (attributes : List String) (fuel : Nat) (p : Progress O) (w : World N) :
    ∃ new passes done,
      (s.run base filter scope attributes fuel p w).2.events = w.events ++ new ∧
      Delivers s.consumer (s.options.request base filter scope attributes) p.handed done passes
        new ∧
      s.options.Verdict (new.filterMap Event.passEnd?)
        (s.run base filter scope attributes fuel p w).1.1
        (s.run base filter scope attributes fuel p w).1.2.complete ∧
      ((s.run base filter scope attributes fuel p w).1.1.isSome = true → done = true ∧
        ∀ fuel', fuel ≤ fuel' → s.run base filter scope attributes fuel' p w =
          s.run base filter scope attributes fuel p w) ∧
      ((s.run base filter scope attributes fuel p w).1.1 = none → fuel ≤ new.length) := by
  obtain ⟨legs, hwalks⟩ := s.walks_run base filter scope attributes fuel p w
  obtain ⟨new, hnew, hverdict⟩ := hwalks.verdict hs
  obtain ⟨l, hl, ⟨passes, done, hdelivers, -, hdone⟩, hspends⟩ :=
    (s.delivery_of_search base filter scope attributes fuel p).and
      (s.spends_run base filter scope attributes fuel p) w
  obtain rfl : l.reverse = new :=
    List.append_cancel_left ((World.events_of_log hl).symm.trans hnew)
  refine ⟨l.reverse, passes, done, hnew, hdelivers, hverdict, fun ha => ⟨hdone ha, ?_⟩, fun ha => ?_⟩
  · intro fuel' hle
    rcases he : s.run base filter scope attributes fuel p w with ⟨⟨_ | answer, p'⟩, w'⟩
    · rw [he] at ha
      cases ha
    · exact s.within_run base filter scope attributes hle he
  · rw [List.length_reverse]
    exact hspends ha

end Search

namespace Scripted

/-- the default server refers a search to another one, which cuts it off -/
def referring : Network where
  hosts :=
    [("ldap.example.com:389",
      { scripts := [.stream [] (some { code := ResultCode.referral, urls := ["ldap://r1/"] })] }),
     ("r1:389", { scripts := [.stream [] (some { code := ResultCode.sizeLimitExceeded })] })]

/-- a search that is content with what it gets -/
def modest : Search Network Entry where
  manager := client
  options := { allowPartialResults := true }
  classifier := .standard
  consumer := ⟨.ok, fun _ => true⟩

def searched (fuel : Nat) : (Option (Except ClientError Unit) × Progress Entry) × World Network :=
  modest.run Dn.root "(objectClass=*)" .subtree [] fuel {} (started referring)

/-- the two passes of that search -/
def passEnds : List PassEnd :=
  [.ended (some { code := ResultCode.referral, urls := ["ldap://r1/"] }),
    .ended (some { code := ResultCode.sizeLimitExceeded })]

/-- With a smaller bound the search goes on after the first pass. -/
theorem verdict_of_run_referred :
    modest.classifier = .standard ∧
      (searched 3).1.1 = some (.ok ()) ∧ (searched 3).1.2.complete = false ∧
      (searched 3).2.events.filterMap Event.passEnd? = passEnds ∧
      modest.options.Verdict passEnds (some (.ok ())) false ∧
      (searched 2).1.1 = none ∧ (searched 2).2.events.filterMap Event.passEnd? = passEnds.take 1 ∧
      modest.options.Verdict (passEnds.take 1) none true := by
  have hanswer : (searched 3).1.1 = some (.ok ()) := by decide +kernel
  have hcomplete : (searched 3).1.2.complete = false := by decide +kernel
  have hends : (searched 3).2.events.filterMap Event.passEnd? = passEnds := by decide +kernel
  have hanswer' : (searched 2).1.1 = none := by decide +kernel
  have hcomplete' : (searched 2).1.2.complete = true := by decide +kernel
  have hends' : (searched 2).2.events.filterMap Event.passEnd? = passEnds.take 1 := by
    decide +kernel
  have hverdict (fuel : Nat) : modest.options.Verdict
      ((searched fuel).2.events.filterMap Event.passEnd?) (searched fuel).1.1
      (searched fuel).1.2.complete := by
    obtain ⟨new, passes, done, hnew, -, hverdict, -⟩ := Search.verdict_of_run (s := modest) rfl
      Dn.root "(objectClass=*)" .subtree [] fuel {} (started referring)
    have hevents : (searched fuel).2.events = new := hnew
    rw [hevents]
    exact hverdict
  have hfinished := hverdict 3
  have hunfinished := hverdict 2
  rw [hanswer, hcomplete, hends] at hfinished
  rw [hanswer', hcomplete', hends'] at hunfinished
  exact ⟨rfl, hanswer, hcomplete, hends, hfinished, hanswer', hends', hunfinished⟩

end Scripted

end DirectoryClient
