import DirectoryClient.Proofs.Search.Annals
import DirectoryClient.Proofs.Search.Delivery

/-!
# What a search counts

A search counts the entries that come in.  Each of them gives an object that is handed over, but for
one that gives none: it is the last entry of a search that fails for want of the object.

* `Progress.Counted`        so many entries came in between two states of progress;
* `counting_of_run`         the counter goes along with the entries in the record;
* `PassEnd.missed`          the entries of a pass that give no object;
* `Hands.countP_isEntry`    the entries of a pass are those handed over and those that give no object;
* `Delivers.countP_isEntry`   the same for a search;
* `Search.Missed`           a search that fails for want of an object;
* `entriesFound_of_run`     the counter is the number of objects handed over, or one more.

The counter has 64 bits, so that it is a number of entries only below `UInt64.size`.
-/

namespace DirectoryClient

namespace Event

/-- an entry that comes in -/
def isEntry : Event → Bool
  | .next _ (.ok (some (.entry _))) => true
  | _ => false

/-- an object that is handed over -/
def isHanded : Event → Bool
  | .handed _ => true
  | _ => false

/-- the end of a pass at an entry that gives no object -/
def isUnmapped : Event → Bool
  | .passed (.unmapped _) => true
  | _ => false

end Event

/-! ## The counter -/

/-- so many entries came in -/
def Progress.Counted {O : Type} (p p' : Progress O) (l : List Event) : Prop :=
  p'.entriesFound = p.entriesFound + .ofNat (l.countP Event.isEntry)

theorem Progress.Counted.trans {O : Type} {p p' p'' : Progress O} {l l' : List Event}
    (h : p.Counted p' l) (h' : p'.Counted p'' l') : p.Counted p'' (l' ++ l) := by
  unfold Counted at h h' ⊢
  rw [h', h, UInt64.add_assoc, ← UInt64.ofNat_add, List.countP_append, Nat.add_comm]

/-- Where no entry comes in, nothing is counted. -/
theorem Progress.Counted.of_quiet {O : Type} {p p' : Progress O} {l : List Event}
    (hl : l.countP Event.isEntry = 0) (h : p'.entriesFound = p.entriesFound) : p.Counted p' l := by
  rw [Counted, hl, h]
  exact (UInt64.add_zero _).symm

/-- no entry comes in -/
def Quiet (l : List Event) : Prop := l.countP Event.isEntry = 0

theorem Quiet.of_forall {l : List Event} (h : ∀ e ∈ l, e.isEntry = false) : Quiet l :=
  List.countP_eq_zero.mpr fun e he => by rw [h e he]; exact Bool.false_ne_true

theorem Between.quiet {l : List Event} (h : Between l) : Quiet l := by
  refine .of_forall fun e he => ?_
  have hb := h e he
  cases e with
  | next c a => exact absurd hb id
  | _ => rfl

theorem Progress.entriesFound_noting {O : Type} (o : SearchOptions) (e : PassEnd)
    (p : Progress O) : (p.noting o e).entriesFound = p.entriesFound := by
  obtain ⟨complete, last, h⟩ := p.exists_noting o e
  rw [h]

section
variable {N O α β : Type}

/-- a part of a search that counts the entries that come in -/
def Searching.Counts (x : Searching N O α) : Prop :=
  ∀ p, Searching.Leaves x p fun _ p' l => p.Counted p' l

namespace Searching.Counts

theorem pure (a : α) : Searching.Counts (Pure.pure a : Searching N O α) := fun _ =>
  .pure (.of_quiet rfl rfl)

theorem bind {x : Searching N O α} {f : α → Searching N O β} (hx : x.Counts)
    (hf : ∀ a, (f a).Counts) : Searching.Counts (x >>= f) := by
  intro p
  refine .bind ((hx p).mono fun a p' l h => ?_)
  exact (hf a p').mono fun b p'' l' h' => h.trans h'

theorem lift {x : Act N α} (hx : x.Leaves fun _ l => Quiet l) :
    Searching.Counts (liftM x : Searching N O α) := fun _ =>
  .lift (hx.mono fun _ _ hl => .of_quiet hl rfl)

theorem modify {f : Progress O → Progress O} (hf : ∀ p, (f p).entriesFound = p.entriesFound) :
    Searching.Counts (modify f : Searching N O Unit) := fun p => .modify (.of_quiet rfl (hf p))

theorem get : Searching.Counts (get : Searching N O (Progress O)) := fun _ =>
  .get (.of_quiet rfl rfl)

/-- what has been counted before stays counted -/
theorem after {x : Searching N O α} (hx : x.Counts) {p₀ p : Progress O} {l₀ : List Event}
    (h : p₀.Counted p l₀) : Searching.Leaves x p fun _ p' l => p₀.Counted p' (l ++ l₀) :=
  (hx p).mono fun _ _ _ h' => h.trans h'

end Searching.Counts

end

namespace Search

variable {N O : Type} (s : Search N O)

theorem counts_discard (c : CursorId) :
    Searching.Counts (liftM (s.manager.transport.discard c) : Searching N O Unit) := by
  refine .lift ((s.leaves_discard c).mono fun _ tail ht => .of_forall ?_)
  rcases ht with rfl | rfl <;> simp [Event.isEntry]

theorem counts_hand (x : O) : Searching.Counts (s.hand (N := N) x) := by
  refine .bind (.modify fun _ => rfl) fun _ => .bind .get fun _ => ?_
  exact .bind (.lift (.record rfl)) fun _ => .pure _

/-- A response without an entry is not counted, an entry is; the induction is on the bound. -/
theorem counts_stream (c : CursorId) (fuel : Nat) : Searching.Counts (s.stream c fuel) := by
  induction fuel with
  | zero => exact .pure none
  | succ fuel ih =>
    have hcontinue (more : Bool) : Searching.Counts (if more then s.stream c fuel else do
        let _ ← s.manager.transport.giveUp c
        return some (.cut .stopped)) := by
      cases more with
      | true => exact ih
      | false => exact .bind (.lift (.call fun a => rfl)) fun _ => .pure _
    intro p
    have hquiet {a : Except Failure (Option Response)} (ha : (Event.next c a).isEntry = false) :
        p.Counted p [.next c a] := .of_quiet (Quiet.of_forall (by simpa using ha)) rfl
    refine .bind (.lift (.call fun a => ?_))
    rcases a with f | (_ | (e | urls | _))
    · exact ((s.counts_discard c).bind fun _ => .pure _).after (hquiet rfl)
    · exact (Searching.Counts.pure _).after (hquiet rfl)
    · have hentry : p.Counted p.counting [.next c (.ok (some (.entry e)))] := rfl
      refine .bind (.modify ?_)
      cases s.consumer.toObject e with
      | error err =>
        have hrest := (s.counts_discard c).bind fun _ =>
          .pure (some (StreamEnd.cut (.unmapped err)))
        exact (hrest.after hentry).mono fun _ _ l h => by rwa [List.append_nil]
      | ok x =>
        have hrest := (s.counts_hand x).bind fun more => hcontinue more
        exact (hrest.after hentry).mono fun _ _ l h => by rwa [List.append_nil]
    · exact ih.after (hquiet rfl)
    · exact ih.after (hquiet rfl)

theorem counts_pass (request : SearchRequest) (session : SessionId) (fuel : Nat) :
    Searching.Counts (s.pass request session fuel) := by
  refine .bind (.lift (.call fun a => rfl)) fun a => ?_
  cases a with
  | error f => exact .pure _
  | ok c =>
    refine .bind (s.counts_stream c fuel) fun o => ?_
    rcases o with _ | (_ | e)
    · exact .pure _
    · refine .bind (.lift ((s.leaves_ending c).mono ?_)) fun _ => .pure _
      rintro result _ ⟨tail, ht, rfl⟩
      refine .of_forall ?_
      rcases ht with rfl | ⟨a, rfl⟩ <;> simp [Event.isEntry]
    · exact .pure _

theorem counts_outcome (conn : Connection) (e : PassEnd) :
    Searching.Counts (s.outcome (N := N) conn e) := by
  intro p
  refine (s.leaves_noted conn e p).mono ?_
  rintro o _ _ ⟨rfl, rfl⟩
  exact .of_quiet rfl (p.entriesFound_noting s.options e)

theorem counts_after (base : Dn) (failures : UInt32) (conn : Connection)
    (o : Except ClientError PassOutcome) :
    Searching.Counts (s.after base failures conn o) := by
  intro p
  refine (s.leaves_after base failures conn o p).mono ?_
  rintro t _ gap ⟨hgap, rfl, -, -⟩
  exact .of_quiet hgap.quiet rfl

theorem counts_turn (base : Dn) (request : SearchRequest) (fuel : Nat) (failures : UInt32)
    (conn : Connection) : Searching.Counts (s.turn base request fuel failures conn) := by
  refine .bind .get fun p => ?_
  cases s.options.retry.allowsAttempt (p.attempts + 1) with
  | false => exact .pure _
  | true =>
    refine .bind (.modify fun _ => rfl) fun _ =>
      .bind (s.counts_pass request conn.session fuel) fun o => ?_
    cases o with
    | none => exact .pure _
    | some e =>
      exact .bind (s.counts_outcome conn e) fun o =>
        .bind (s.counts_after base failures conn o) fun t => .pure _

theorem counts_passes (base : Dn) (request : SearchRequest) (fuel : Nat) (failures : UInt32)
    (conn : Connection) : Searching.Counts (s.passes base request fuel failures conn) := by
  induction fuel generalizing failures conn with
  | zero => exact .pure none
  | succ fuel ih =>
    refine .bind (s.counts_turn base request fuel failures conn) fun o => ?_
    rcases o with _ | (answer | ⟨failures, conn⟩)
    · exact .pure _
    · exact .pure _
    · exact ih failures conn

/-- The counter of a search starts anew and goes along with the entries that come in. -/
theorem counting_of_run (base : Dn) (filter : String) (scope : Scope) (attributes : List String)
    (fuel : Nat) (p : Progress O) :
    Searching.Leaves (s.run base filter scope attributes fuel) p fun _ p' l =>
      p'.entriesFound = .ofNat (l.countP Event.isEntry) := by
  have hfirst := Manager.leaves_of_follows (s.follows_firstConnection base)
  have hquiet : Searching.Counts (liftM (s.firstConnection base) : Searching N O _) :=
    .lift (hfirst.mono fun _ _ hgap => hgap.quiet)
  refine .bind (.modify ((hquiet.bind (fun a => ?_) p.restarted).mono fun o p' l h => ?_))
  · cases a with
    | error e => exact .pure _
    | ok conn => exact s.counts_passes base _ fuel 0 conn
  · have hzero : p.restarted.entriesFound = 0 := rfl
    rw [h, hzero, UInt64.zero_add, List.append_nil]

end Search

/-! ## Entries and objects -/

/-- the entries of a pass that give no object -/
def PassEnd.missed : PassEnd → Nat
  | .unmapped _ => 1
  | _ => 0

def StreamEnd.missed : StreamEnd → Nat
  | .exhausted => 0
  | .cut e => e.missed

/-- So many entries gave objects, and so many gave none. -/
structure Tallies (l : List Event) (handed missed : Nat) : Prop where
  objects : l.countP Event.isHanded = handed
  entries : l.countP Event.isEntry = handed + missed

namespace Tallies

variable {l l' : List Event} {handed handed' missed missed' : Nat}

theorem append (h : Tallies l handed missed) (h' : Tallies l' handed' missed') :
    Tallies (l ++ l') (handed + handed') (missed + missed') where
  objects := by rw [List.countP_append, h.objects, h'.objects]
  entries := by
    rw [List.countP_append, h.entries, h'.entries]
    omega

/-- An event that is neither is left out. -/
theorem cons (h : Tallies l handed missed) {e : Event} (he : e.isEntry = false)
    (hh : e.isHanded = false) : Tallies (e :: l) handed missed where
  objects := by rw [List.countP_cons_of_neg (by simp [hh]), h.objects]
  entries := by rw [List.countP_cons_of_neg (by simp [he]), h.entries]

end Tallies

theorem Between.tallies {l : List Event} (h : Between l) : Tallies l 0 0 := by
  refine ⟨List.countP_eq_zero.mpr fun e he => ?_, h.quiet⟩
  have hb := h e he
  cases e with
  | handed more => exact absurd hb id
  | _ => exact Bool.false_ne_true

section
variable {O : Type} {k : Consumer O} {c : CursorId} {request : SearchRequest}
  {before objects : List O} {l : List Event}

theorem tallies_heard (responses : List Response) :
    Tallies (responses.flatMap (heard c)) (responses.filterMap Response.found?).length 0 := by
  induction responses with
  | nil => exact ⟨rfl, rfl⟩
  | cons r responses ih =>
    rw [List.flatMap_cons]
    cases r with
    | entry e =>
      have hentry : Tallies (heard c (.entry e)) 1 0 := ⟨rfl, rfl⟩
      rw [List.filterMap_cons_some (Response.found?_entry e), List.length_cons, Nat.add_comm]
      exact hentry.append ih
    | reference urls => exact ih.cons rfl rfl
    | intermediate => exact ih.cons rfl rfl

theorem Closes.tallies {o : Option StreamEnd} (h : Closes k c before o objects l) :
    Tallies l objects.length (o.elim 0 StreamEnd.missed) := by
  cases h with
  | unfinished => exact ⟨rfl, rfl⟩
  | exhausted => exact ⟨rfl, rfl⟩
  | failed f ht => rcases ht with rfl | rfl <;> exact ⟨rfl, rfl⟩
  | unmapped hx ht => rcases ht with rfl | rfl <;> exact ⟨rfl, rfl⟩
  | stopped hx hm a => exact ⟨rfl, rfl⟩

theorem Handing.tallies {o : Option StreamEnd} (h : Handing k c before o objects l) :
    Tallies l objects.length (o.elim 0 StreamEnd.missed) := by
  cases h with
  | @intro responses given last closing hgiven hmore hclose =>
    have hlength : (responses.filterMap Response.found?).length = given.length := by
      have h := congrArg List.length hgiven
      rwa [List.length_map, List.length_map] at h
    have h := (tallies_heard (c := c) responses).append hclose.tallies
    rwa [hlength, Nat.zero_add, ← List.length_append] at h

/-- The entries of a pass are those that are handed over and the one that gives no object. -/
theorem Hands.tallies {o : Option PassEnd} (h : Hands k request before o objects l) :
    Tallies l objects.length (o.elim 0 PassEnd.missed) := by
  cases h with
  | refused session f => exact ⟨rfl, rfl⟩
  | unfinished session h => exact h.tallies.cons rfl rfl
  | cut session h => exact h.tallies.cons rfl rfl
  | @ended session c objects l h result tail ht =>
    have htail : Tallies (.finish c result :: tail) 0 0 := by
      rcases ht with rfl | ⟨a, rfl⟩ <;> exact ⟨rfl, rfl⟩
    exact (h.tallies.append htail).cons rfl rfl

theorem Hands.not_isUnmapped {o : Option PassEnd} (h : Hands k request before o objects l) :
    l.countP Event.isUnmapped = 0 := by
  obtain ⟨session, a, rest, rfl, hrest⟩ := h.exists_reading
  refine List.countP_eq_zero.mpr fun e he => ?_
  obtain rfl | he := List.mem_cons.mp he
  · exact Bool.false_ne_true
  · have hread := hrest e he
    cases e with
    | passed e => exact absurd hread id
    | _ => exact Bool.false_ne_true

theorem Between.not_isUnmapped (h : Between l) : l.countP Event.isUnmapped = 0 := by
  refine List.countP_eq_zero.mpr fun e he => ?_
  have hb := h e he
  cases e with
  | passed e => exact absurd hb id
  | _ => exact Bool.false_ne_true

theorem Fetched.not_isUnmapped (h : Fetched l) : l.countP Event.isUnmapped = 0 := by
  refine List.countP_eq_zero.mpr fun e he => ?_
  have hf := h.fetching e he
  cases e with
  | passed e => exact absurd hf id
  | _ => exact Bool.false_ne_true

theorem countP_isUnmapped_passed (e : PassEnd) (l : List Event) :
    (Event.passed e :: l).countP Event.isUnmapped = e.missed + l.countP Event.isUnmapped := by
  cases e with
  | unmapped err => rw [List.countP_cons_of_pos rfl, Nat.add_comm]; rfl
  | _ => rw [List.countP_cons_of_neg Bool.false_ne_true]; exact (Nat.zero_add _).symm

/-- The entries of a search are those that are handed over and those that give no object. -/
theorem Delivers.tallies {done : Bool} {passes : List (List O)}
    (h : Delivers k request before done passes l) :
    Tallies l passes.flatten.length (l.countP Event.isUnmapped) := by
  induction h with
  | none hg =>
    rw [hg.not_isUnmapped]
    exact hg.tallies
  | unfinished hg he =>
    have h := hg.tallies.append he.tallies
    rw [List.countP_append, hg.not_isUnmapped, he.not_isUnmapped, List.flatten_singleton]
    rwa [Nat.zero_add] at h
  | @pass before objects e done passes gap events l hg he h ih =>
    have hrest : Tallies (.passed e :: l) passes.flatten.length (l.countP Event.isUnmapped) :=
      ih.cons rfl rfl
    have hall := hg.tallies.append (he.tallies.append hrest)
    rw [List.countP_append, List.countP_append, hg.not_isUnmapped, he.not_isUnmapped,
      countP_isUnmapped_passed, List.flatten_cons, List.length_append]
    simp only [Nat.zero_add] at hall ⊢
    exact hall

end

/-! ## Where an entry gives no object -/

namespace Search

variable {N O : Type} {s : Search N O} {base : Dn} {request : SearchRequest}
  {failures : UInt32} {conn : Connection} {p p' : Progress O} {w w' : World N} {r : Round}
  {legs : List Leg} {a b : Stage N O} {answer : Option (Except ClientError Unit)}

/-- A search that fails for want of an object, and with this it is over. -/
structure Missed (k : Consumer O) (answer : Option (Except ClientError Unit)) (l : List Event)
    (err : ClientError) : Prop where
  object : ∃ e, k.toObject e = .error err
  answer : answer = some (.error err)
  last : ∃ front, l = front ++ [.passed (.unmapped err)] ∧ front.countP Event.isUnmapped = 0

theorem Interlude.not_isUnmapped {policy : RetryPolicy} {o : Except ClientError PassOutcome}
    {gap : List Event} (h : Interlude policy failures conn o gap) :
    gap.countP Event.isUnmapped = 0 := by
  cases h with
  | failed err => rfl
  | done => rfl
  | repeated draw => rfl
  | @reconnected a draw l hl =>
    show l.countP Event.isUnmapped = 0
    exact hl.not_isUnmapped
  | referred referral hl => exact hl.not_isUnmapped

/-- A turn whose pass ends otherwise. -/
theorem Turns.not_isUnmapped (h : s.Turns base request failures conn p w r p' w')
    (hr : r.ending.missed = 0) :
    ∃ new, w'.events = w.events ++ new ∧ new.countP Event.isUnmapped = 0 := by
  obtain ⟨pass, gap, hevents, -, ⟨objects, hhands⟩, hinter⟩ := h.exists_events
  refine ⟨_, hevents, ?_⟩
  rw [List.countP_append, hhands.not_isUnmapped, countP_isUnmapped_passed, hr,
    hinter.not_isUnmapped]

/-- A pass that another one follows ends otherwise. -/
theorem Next.missed_eq (h : s.Next base request a r b) : r.ending.missed = 0 := by
  obtain ⟨v, x, hpassed, hx, -⟩ := h.turns.exists_onward h.again
  obtain ⟨record, hjudge⟩ := hpassed.judged
  rw [hx] at hjudge
  cases he : r.ending with
  | unmapped err =>
    rw [he] at hjudge
    cases hjudge
  | _ => rfl

/-- A pass that ends at an entry without an object ends the search, and nothing follows. -/
theorem Turns.of_unmapped (h : s.Turns base request failures conn p w r p' w') {err : ClientError}
    (hr : r.ending = .unmapped err) :
    r.turn = .finished (.error err) ∧ (∃ e, s.consumer.toObject e = .error err) ∧
      ∃ pass, w'.events = w.events ++ (pass ++ [.passed (.unmapped err)]) ∧
        pass.countP Event.isUnmapped = 0 := by
  obtain ⟨hpassed, hturn⟩ := h.over (.error err) fun _ => by rw [hr]; rfl
  obtain ⟨pass, objects, hv, -, hhands, -⟩ := hpassed.left
  rw [hr] at hv hhands
  exact ⟨hturn, hhands.exists_unmapped rfl, pass, hv, hhands.not_isUnmapped⟩

/-- Every entry of a search gives an object, or the search fails for want of one. -/
theorem Walks.missed (h : s.Walks base request p w legs answer p' w') :
    ∃ new, w'.events = w.events ++ new ∧
      (new.countP Event.isUnmapped = 0 ∨ ∃ err, Missed s.consumer answer new err) := by
  have countP_append {l new : List Event} (hl : l.countP Event.isUnmapped = 0)
      (hnew : new.countP Event.isUnmapped = 0) : (l ++ new).countP Event.isUnmapped = 0 := by
    rw [List.countP_append, hl, hnew]
  refine h.exists_events (P := fun _ l => l.countP Event.isUnmapped = 0)
    (Q := fun _ answer _ new => new.countP Event.isUnmapped = 0 ∨
      ∃ err, Missed s.consumer answer new err) ?first ?next ?rest ?cut ?finished
  case first => exact fun gap hgap => hgap.not_isUnmapped
  case next =>
    intro legs a r b l h hr hl
    obtain ⟨new, hw, hnew⟩ := hr.turns.not_isUnmapped hr.missed_eq
    exact ⟨new, hw, countP_append hl hnew⟩
  case rest => exact fun hl _ _ => .inl hl
  case cut => exact fun hl _ hhands _ => .inl (countP_append hl hhands.not_isUnmapped)
  case finished =>
    intro legs a r answer p' w' l h ht hr hl
    cases he : r.ending with
    | unmapped err =>
      obtain ⟨hturn, hobject, pass, hw', hpass⟩ := ht.of_unmapped he
      have hanswer : answer = .error err := Turn.finished.inj (hr.symm.trans hturn)
      refine ⟨_, hw', .inr ⟨err, hobject, by rw [hanswer], l ++ pass, ?_, ?_⟩⟩
      · rw [List.append_assoc]
      · exact countP_append hl hpass
    | _ =>
      obtain ⟨new, hw', hnew⟩ := ht.not_isUnmapped (by rw [he]; rfl)
      exact ⟨new, hw', .inl (countP_append hl hnew)⟩

/-- **The entries that a search counts are those that its cursors give, and each of them is handed
over, but for one that gives no object**: with it the search fails, and it has counted one entry more
than it handed over. -/
theorem entriesFound_of_run (s : Search N O) (base : Dn) (filter : String) (scope : Scope)
    (attributes : List String) (fuel : Nat) (p : Progress O) (w : World N) :
    ∃ new, (s.run base filter scope attributes fuel p w).2.events = w.events ++ new ∧
      (s.run base filter scope attributes fuel p w).1.2.entriesFound =
        .ofNat (new.countP Event.isEntry) ∧
      (new.countP Event.isEntry < UInt64.size →
        (s.run base filter scope attributes fuel p w).1.2.entriesFound.toNat =
          new.countP Event.isEntry) ∧
      (s.run base filter scope attributes fuel p w).1.2.handed.length =
        p.handed.length + new.countP Event.isHanded ∧
      ((new.countP Event.isEntry = new.countP Event.isHanded ∧
          ∀ err, Event.passed (.unmapped err) ∉ new) ∨
        ∃ err, new.countP Event.isEntry = new.countP Event.isHanded + 1 ∧
          Missed s.consumer (s.run base filter scope attributes fuel p w).1.1 new err) := by
  obtain ⟨legs, hwalks⟩ := s.walks_run base filter scope attributes fuel p w
  obtain ⟨new, hnew, hmissed⟩ := hwalks.missed
  obtain ⟨l, hl, hfound, passes, done, hdelivers, hhanded, -⟩ :=
    (s.counting_of_run base filter scope attributes fuel p).and
      (s.delivery_of_search base filter scope attributes fuel p) w
  obtain rfl : l.reverse = new :=
    List.append_cancel_left ((World.events_of_log hl).symm.trans hnew)
  obtain ⟨hobjects, hentries⟩ := hdelivers.tallies
  rw [← List.countP_reverse] at hfound
  refine ⟨l.reverse, hnew, hfound, fun hsize => ?_, ?_, ?_⟩
  · rw [hfound, UInt64.toNat_ofNat_of_lt' hsize]
  · rw [hhanded, List.length_append, hobjects]
  · rw [hentries, hobjects]
    rcases hmissed with hnone | ⟨err, hmissed⟩
    · refine .inl ⟨by rw [hnone, Nat.add_zero], fun err hmem => ?_⟩
      exact List.countP_eq_zero.mp hnone _ hmem rfl
    · obtain ⟨front, hlast, hfront⟩ := hmissed.last
      refine .inr ⟨err, ?_, hmissed⟩
      rw [hlast, List.countP_append, hfront]
      rfl

end Search

namespace Scripted

/-- a server with one entry -/
def lone : Network where
  hosts :=
    [("ldap.example.com:389",
      { scripts := [.stream [.response (.entry { dn := "cn=a" })]
          (some { code := ResultCode.success })] })]

/-- a search that has no use for entries -/
def strict : Search Network Entry where
  manager := client
  options := {}
  classifier := .standard
  consumer := ⟨fun e => .error (.operationFailed ("cannot map " ++ e.dn) none), fun _ => true⟩

/-- An entry that gives no object is counted, although it is never handed over. -/
theorem counted_unhanded : ¬ ∀ (s : Search Network Entry) (base : Dn) (filter : String)
    (scope : Scope) (attributes : List String) (fuel : Nat) (p : Progress Entry)
    (w : World Network) (new : List Event),
    (s.run base filter scope attributes fuel p w).1.1.isSome = true →
    (s.run base filter scope attributes fuel p w).2.events = w.events ++ new →
    (s.run base filter scope attributes fuel p w).1.2.entriesFound.toNat =
      new.countP Event.isHanded := by
  intro h
  have hevents : (started lone).events = [] := rfl
  have hrun := h strict Dn.root "(objectClass=*)" .subtree [] 5 {} (started lone) _
    (by decide +kernel) (by rw [hevents, List.nil_append])
  revert hrun
  decide +kernel

end Scripted

end DirectoryClient
