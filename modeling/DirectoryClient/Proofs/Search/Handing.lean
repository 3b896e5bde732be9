import DirectoryClient.Proofs.Run.Record

/-!
# What a pass hands over

A pass hands over the objects of the entries that its cursor gives, in the order of the cursor, until
it ends.  Lists of events are in the order of time here.

* `Handing`              what reading a cursor leaves, and the objects that it hands over;
* `Hands`                the same for a pass;
* `Hands.objects_eq`     the record alone says which objects were handed over;
* `Event.passEnd?`       the end of a pass, which is written down when the pass is over;
* `Hands.exists_reading`   a pass sends one request, and all else is reading;
* `Progress.Gains`       what reading does to the progress of a search;
* `delivery_of_pass`     every pass hands over what its cursor gives.
-/

namespace DirectoryClient

def Response.found? : Response → Option Entry
  | .entry e => some e
  | .reference _ | .intermediate => none

theorem Response.found?_entry (e : Entry) : (Response.entry e).found? = some e := rfl

section
variable {O : Type} {k : Consumer O} {c : CursorId} {request : SearchRequest}

/-! ## One cursor -/

/-- What a response leaves that does not end the reading: an entry is handed over, anything else is
passed over. -/
def heard (c : CursorId) (r : Response) : List Event :=
  .next c (.ok (some r)) :: if r.found?.isSome then [.handed true] else []

/-- What the end of reading leaves, and the object that is handed over last, if there is one.  There
is no end if the bound is reached. -/
inductive Closes (k : Consumer O) (c : CursorId) (before : List O) :
    Option StreamEnd → List O → List Event → Prop
  | unfinished : Closes k c before none [] []
  | exhausted : Closes k c before (some .exhausted) [] [.next c (.ok none)]
  | failed (f : Failure) {tail : List Event} (ht : tail = [] ∨ tail = [.cancel c]) :
      Closes k c before (some (.cut (.failed f))) [] (.next c (.error f) :: tail)
  | unmapped {e : Entry} {err : ClientError} (hx : k.toObject e = .error err) {tail : List Event}
      (ht : tail = [] ∨ tail = [.cancel c]) :
      Closes k c before (some (.cut (.unmapped err))) []
        (.next c (.ok (some (.entry e))) :: tail)
  /-- the handler wants no more -/
  | stopped {e : Entry} {x : O} (hx : k.toObject e = .ok x)
      (hm : k.wantsMore (before ++ [x]) = false) (a : Except Failure Unit) :
      Closes k c before (some (.cut .stopped)) [x]
        [.next c (.ok (some (.entry e))), .handed false, .abandon c a]

/-- What reading a cursor leaves, and the objects that it hands over when others were handed over
before: those of the entries among the responses, one by one, as long as more are wanted. -/
inductive Handing (k : Consumer O) (c : CursorId) (before : List O) :
    Option StreamEnd → List O → List Event → Prop
  | intro {o : Option StreamEnd} {responses : List Response} {given last : List O}
      {closing : List Event}
      (hgiven : (responses.filterMap Response.found?).map k.toObject = given.map .ok)
      (hmore : ∀ front, front <+: given → front ≠ [] → k.wantsMore (before ++ front) = true)
      (hclose : Closes k c (before ++ given) o last closing) :
      Handing k c before o (given ++ last) (responses.flatMap (heard c) ++ closing)

theorem Closes.handing {before : List O} {o : Option StreamEnd} {last : List O}
    {closing : List Event} (h : Closes k c before o last closing) :
    Handing k c before o last closing := by
  have hmore : ∀ front, front <+: ([] : List O) → front ≠ [] →
      k.wantsMore (before ++ front) = true :=
    fun front hf hne => absurd (List.prefix_nil.mp hf) hne
  have hclose : Closes k c (before ++ []) o last closing := by rwa [List.append_nil]
  have hgiven : (([] : List Response).filterMap Response.found?).map k.toObject =
      ([] : List O).map .ok := rfl
  exact .intro hgiven hmore hclose

namespace Handing

variable {before objects : List O} {o : Option StreamEnd} {l : List Event}

/-- a reference or an intermediate response is passed over -/
theorem other {r : Response} (hr : r.found? = none) (h : Handing k c before o objects l) :
    Handing k c before o objects (.next c (.ok (some r)) :: l) := by
  cases h with
  | @intro responses given last closing hgiven hmore hclose =>
    have hgiven' : ((r :: responses).filterMap Response.found?).map k.toObject =
        given.map .ok := by rw [List.filterMap_cons_none hr, hgiven]
    have h := Handing.intro hgiven' hmore hclose
    rwa [List.flatMap_cons, heard, hr] at h

theorem object {e : Entry} {x : O} (hx : k.toObject e = .ok x)
    (hm : k.wantsMore (before ++ [x]) = true) (h : Handing k c (before ++ [x]) o objects l) :
    Handing k c before o (x :: objects) (.next c (.ok (some (.entry e))) :: .handed true :: l) := by
  cases h with
  | @intro responses given last closing hgiven hmore hclose =>
    have hgiven' : ((.entry e :: responses).filterMap Response.found?).map k.toObject =
        (x :: given).map .ok := by
      rw [List.filterMap_cons_some (Response.found?_entry e), List.map_cons, List.map_cons, hx, hgiven]
    have hmore' : ∀ front, front <+: x :: given → front ≠ [] →
        k.wantsMore (before ++ front) = true := by
      intro front hf hne
      obtain rfl | ⟨rest, rfl, hrest⟩ := List.prefix_cons_iff.mp hf
      · exact absurd rfl hne
      · rcases eq_or_ne rest [] with rfl | hrest'
        · exact hm
        · have h := hmore rest hrest hrest'
          rwa [List.append_assoc] at h
    have hclose' : Closes k c (before ++ x :: given) o last closing := by
      rwa [List.append_assoc] at hclose
    exact .intro hgiven' hmore' hclose'

end Handing

/-! ## Passes -/

/-- What a pass leaves, and the objects that it hands over. -/
inductive Hands (k : Consumer O) (request : SearchRequest) (before : List O) :
    Option PassEnd → List O → List Event → Prop
  | refused (session : SessionId) (f : Failure) :
      Hands k request before (some (.failed f)) [] [.search session request (.error f)]
  | unfinished (session : SessionId) {c : CursorId} {objects : List O} {l : List Event}
      (h : Handing k c before none objects l) :
      Hands k request before none objects (.search session request (.ok c) :: l)
  | cut (session : SessionId) {c : CursorId} {e : PassEnd} {objects : List O} {l : List Event}
      (h : Handing k c before (some (.cut e)) objects l) :
      Hands k request before (some e) objects (.search session request (.ok c) :: l)
  | ended (session : SessionId) {c : CursorId} {objects : List O} {l : List Event}
      (h : Handing k c before (some .exhausted) objects l) (result : Option LdapResult)
      {tail : List Event} (ht : tail = [] ∨ ∃ a, tail = [.abandon c a]) :
      Hands k request before (some (.ended result)) objects
        (.search session request (.ok c) :: (l ++ .finish c result :: tail))

/-! ## The record says what is handed over -/

/-- the object of an entry that comes in -/
def Event.object? (k : Consumer O) : Event → Option O
  | .next _ (.ok (some (.entry e))) => (k.toObject e).toOption
  | _ => none

theorem objects_heard {responses : List Response} {given : List O}
    (h : (responses.filterMap Response.found?).map k.toObject = given.map .ok) :
    (responses.flatMap (heard c)).filterMap (Event.object? k) = given := by
  induction responses generalizing given with
  | nil => exact (List.map_eq_nil_iff.mp h.symm).symm
  | cons r responses ih =>
    rw [List.flatMap_cons, List.filterMap_append]
    cases r with
    | entry e =>
      rw [List.filterMap_cons_some (Response.found?_entry e), List.map_cons] at h
      obtain ⟨x, given, rfl, hx, hrest⟩ := List.map_eq_cons_iff.mp h.symm
      rw [ih hrest.symm]
      simp [heard, Event.object?, Response.found?, ← hx, Except.toOption]
    | reference urls => exact ih h
    | intermediate => exact ih h

theorem Closes.objects_eq {before last : List O} {o : Option StreamEnd} {l : List Event}
    (h : Closes k c before o last l) : l.filterMap (Event.object? k) = last := by
  cases h with
  | unfinished => rfl
  | exhausted => rfl
  | failed f ht => rcases ht with rfl | rfl <;> rfl
  | unmapped hx ht => rcases ht with rfl | rfl <;> simp [Event.object?, hx, Except.toOption]
  | stopped hx hm a => simp [Event.object?, hx, Except.toOption]

theorem Handing.objects_eq {before objects : List O} {o : Option StreamEnd} {l : List Event}
    (h : Handing k c before o objects l) : l.filterMap (Event.object? k) = objects := by
  cases h with
  | intro hgiven hmore hclose =>
    rw [List.filterMap_append, objects_heard hgiven, hclose.objects_eq]

theorem Hands.objects_eq {before objects : List O} {o : Option PassEnd} {l : List Event}
    (h : Hands k request before o objects l) : l.filterMap (Event.object? k) = objects := by
  cases h with
  | refused session f => rfl
  | unfinished session h => exact h.objects_eq
  | cut session h => exact h.objects_eq
  | @ended session c objects l h result tail ht =>
    have htail : (Event.finish c result :: tail).filterMap (Event.object? k) = [] := by
      rcases ht with rfl | ⟨a, rfl⟩ <;> rfl
    show (l ++ .finish c result :: tail).filterMap (Event.object? k) = objects
    rw [List.filterMap_append, h.objects_eq, htail, List.append_nil]

/-! ## The record of a pass -/

/-- an event of reading a cursor, or of ending it -/
def Event.IsReading : Event → Prop
  | .next _ _ | .finish _ _ | .abandon _ _ | .cancel _ | .handed _ => True
  | _ => False

def Event.passEnd? : Event → Option PassEnd
  | .passed e => some e
  | _ => none

theorem Between.filterMap_eq {l : List Event} (h : Between l) :
    l.filterMap Event.passEnd? = [] := by
  refine List.filterMap_eq_nil_iff.mpr fun e he => ?_
  have hb := h e he
  cases e with
  | passed e => exact absurd hb id
  | _ => rfl

def Event.request? : Event → Option SearchRequest
  | .search _ request _ => some request
  | _ => none

section
variable {before objects : List O} {l : List Event}

theorem isReading_heard {r : Response} : ∀ e ∈ heard c r, e.IsReading := by
  intro e he
  obtain rfl | he := List.mem_cons.mp he
  · trivial
  · split at he
    · obtain rfl := List.mem_singleton.mp he
      trivial
    · cases he

theorem Closes.isReading {o : Option StreamEnd} (h : Closes k c before o objects l) :
    ∀ e ∈ l, e.IsReading := by
  cases h with
  | unfinished => exact List.forall_mem_nil _
  | exhausted => exact List.forall_mem_singleton.mpr trivial
  | failed f ht =>
    refine List.forall_mem_cons.mpr ⟨trivial, ?_⟩
    rcases ht with rfl | rfl <;> simp [Event.IsReading]
  | unmapped hx ht =>
    refine List.forall_mem_cons.mpr ⟨trivial, ?_⟩
    rcases ht with rfl | rfl <;> simp [Event.IsReading]
  | stopped hx hm a => simp [Event.IsReading]

theorem Handing.isReading {o : Option StreamEnd} (h : Handing k c before o objects l) :
    ∀ e ∈ l, e.IsReading := by
  cases h with
  | intro hgiven hmore hclose =>
    intro e he
    rcases List.mem_append.mp he with he | he
    · obtain ⟨r, -, hr⟩ := List.mem_flatMap.mp he
      exact isReading_heard e hr
    · exact hclose.isReading e he

/-- A pass sends one request; all else is reading. -/
theorem Hands.exists_reading {o : Option PassEnd} (h : Hands k request before o objects l) :
    ∃ session a rest, l = .search session request a :: rest ∧ ∀ e ∈ rest, e.IsReading := by
  cases h with
  | refused session f => exact ⟨session, _, [], rfl, List.forall_mem_nil _⟩
  | unfinished session h => exact ⟨session, _, _, rfl, h.isReading⟩
  | cut session h => exact ⟨session, _, _, rfl, h.isReading⟩
  | ended session h result ht =>
    refine ⟨session, _, _, rfl, fun e he => ?_⟩
    rcases List.mem_append.mp he with he | he
    · exact h.isReading e he
    · obtain rfl | he := List.mem_cons.mp he
      · trivial
      · rcases ht with rfl | ⟨a, rfl⟩
        · cases he
        · obtain rfl := List.mem_singleton.mp he
          trivial

theorem Hands.requests_eq {o : Option PassEnd} (h : Hands k request before o objects l) :
    l.filterMap Event.request? = [request] := by
  obtain ⟨session, a, rest, rfl, hrest⟩ := h.exists_reading
  have hnone : rest.filterMap Event.request? = [] := by
    refine List.filterMap_eq_nil_iff.mpr fun e he => ?_
    have hread := hrest e he
    cases e with
    | search session request a => exact absurd hread id
    | _ => rfl
  exact congrArg (request :: ·) hnone

/-- The end of a pass is written down after it. -/
theorem Hands.ends_eq {o : Option PassEnd} (h : Hands k request before o objects l) :
    l.filterMap Event.passEnd? = [] := by
  obtain ⟨session, a, rest, rfl, hrest⟩ := h.exists_reading
  have hnone : rest.filterMap Event.passEnd? = [] := by
    refine List.filterMap_eq_nil_iff.mpr fun e he => ?_
    have hread := hrest e he
    cases e with
    | passed e => exact absurd hread id
    | _ => rfl
  exact hnone

end

/-- An error for want of an object is an error of the consumer. -/
theorem Hands.exists_unmapped {before objects : List O} {o : Option PassEnd} {l : List Event}
    (h : Hands k request before o objects l) {err : ClientError}
    (ho : o = some (.unmapped err)) : ∃ e, k.toObject e = .error err := by
  cases h with
  | refused session f => cases ho
  | unfinished session h => cases ho
  | ended session h result ht => cases ho
  | cut session h =>
    cases ho
    cases h with
    | intro hgiven hmore hclose =>
      cases hclose with
      | unmapped hx ht => exact ⟨_, hx⟩

end

/-! ## Passes hand over -/

/-- what the progress of a search gains while responses are read -/
structure Progress.Gains {O : Type} (p p' : Progress O) (objects : List O) : Prop where
  handed : p'.handed = p.handed ++ objects
  complete : p'.complete = p.complete
  attempts : p'.attempts = p.attempts
  lastReferral : p'.lastReferral = p.lastReferral

theorem Progress.Gains.refl {O : Type} (p : Progress O) : p.Gains p [] :=
  ⟨(List.append_nil _).symm, rfl, rfl, rfl⟩

theorem Progress.gains_counting {O : Type} (p : Progress O) : p.Gains p.counting [] :=
  ⟨(List.append_nil _).symm, rfl, rfl, rfl⟩

theorem Progress.Gains.trans {O : Type} {p p' p'' : Progress O} {l l' : List O}
    (h : p.Gains p' l) (h' : p'.Gains p'' l') : p.Gains p'' (l ++ l') where
  handed := by rw [h'.handed, h.handed, List.append_assoc]
  complete := h'.complete.trans h.complete
  attempts := h'.attempts.trans h.attempts
  lastReferral := h'.lastReferral.trans h.lastReferral

namespace Search

variable {N O : Type} (s : Search N O)

theorem leaves_discard (c : CursorId) :
    (s.manager.transport.discard c).Leaves fun _ l => l = [] ∨ l = [.cancel c] := by
  refine .bind (.ask fun ended => ?_)
  cases ended with
  | true => exact .pure (.inl rfl)
  | false => exact fun w => ⟨[.cancel c], rfl, .inr rfl⟩

theorem leaves_release (c : CursorId) :
    (s.manager.transport.release c).Leaves fun _ l => l = [] ∨ ∃ a, l = [.abandon c a] := by
  refine .bind (.ask fun ended => ?_)
  cases ended with
  | true => exact .pure (.inl rfl)
  | false => exact .bind (.call fun a => .pure (.inr ⟨a, rfl⟩))

theorem leaves_hand (x : O) (p : Progress O) :
    Searching.Leaves (s.hand (N := N) x) p fun more p' l => p' = p.handing x ∧
      more = s.consumer.wantsMore (p.handed ++ [x]) ∧ l = [.handed more] := by
  refine .bind (.modify (.bind (.get ?_)))
  exact .bind (.lift (.record (.pure ⟨rfl, rfl, rfl⟩)))

theorem leaves_ending (c : CursorId) : (s.ending c).Leaves fun result l =>
    ∃ tail, (tail = [] ∨ ∃ a, tail = [.abandon c a]) ∧ l = tail ++ [.finish c result] := by
  refine .bind (.call fun result => .bind ((s.leaves_release c).mono fun _ tail ht => .pure ?_))
  exact ⟨tail, ht, rfl⟩

theorem delivery_of_stream (c : CursorId) (fuel : Nat) (p : Progress O) :
    Searching.Leaves (s.stream c fuel) p fun o p' l =>
      ∃ objects, p.Gains p' objects ∧ Handing s.consumer c p.handed o objects l.reverse := by
  have reverse_tail {tail : List Event} (ht : tail = [] ∨ tail = [.cancel c]) :
      tail.reverse = [] ∨ tail.reverse = [.cancel c] := by
    rcases ht with rfl | rfl <;> simp
  induction fuel generalizing p with
  | zero => exact .pure ⟨[], .refl p, Closes.unfinished.handing⟩
  | succ fuel ih =>
    refine .bind (.lift (.call fun a => ?_))
    rcases a with f | (_ | (e | urls | _))
    · refine .bind (.lift ((s.leaves_discard c).mono fun _ tail ht => .pure ?_))
      refine ⟨[], .refl p, ?_⟩
      have h : Handing s.consumer c p.handed _ [] _ := (Closes.failed f (reverse_tail ht)).handing
      simpa using h
    · exact .pure ⟨[], .refl p, Closes.exhausted.handing⟩
    · refine .bind (.modify ?_)
      cases hx : s.consumer.toObject e with
      | error err =>
        refine .bind (.lift ((s.leaves_discard c).mono fun _ tail ht => .pure ?_))
        refine ⟨[], p.gains_counting, ?_⟩
        have h : Handing s.consumer c p.handed _ [] _ :=
          (Closes.unmapped hx (reverse_tail ht)).handing
        simpa using h
      | ok x =>
        refine .bind ((s.leaves_hand x _).mono ?_)
        rintro more _ _ ⟨rfl, hm, rfl⟩
        have hgain : p.Gains (p.counting.handing x) [x] := ⟨rfl, rfl, rfl, rfl⟩
        cases more with
        | true =>
          refine (ih _).mono ?_
          rintro o p' l ⟨objects, hp, h⟩
          refine ⟨x :: objects, hgain.trans hp, ?_⟩
          have h : Handing s.consumer c p.handed o _ _ := .object hx hm.symm h
          simpa using h
        | false =>
          refine .bind (.lift (.call fun a => .pure ?_))
          exact ⟨[x], hgain, (Closes.stopped hx hm.symm a).handing⟩
    · refine (ih p).mono ?_
      rintro o p' l ⟨objects, hp, h⟩
      refine ⟨objects, hp, ?_⟩
      have h := h.other (r := .reference urls) rfl
      simpa using h
    · refine (ih p).mono ?_
      rintro o p' l ⟨objects, hp, h⟩
      refine ⟨objects, hp, ?_⟩
      have h := h.other (r := .intermediate) rfl
      simpa using h

theorem delivery_of_pass (request : SearchRequest) (session : SessionId) (fuel : Nat)
    (p : Progress O) : Searching.Leaves (s.pass request session fuel) p fun o p' l =>
      ∃ objects, p.Gains p' objects ∧ Hands s.consumer request p.handed o objects l.reverse := by
  refine .bind (.lift (.call fun a => ?_))
  cases a with
  | error f => exact .pure ⟨[], .refl p, .refused session f⟩
  | ok c =>
    refine .bind ((s.delivery_of_stream c fuel p).mono ?_)
    rintro o p' l ⟨objects, hp, h⟩
    rcases o with _ | (_ | e)
    · refine .pure ⟨objects, hp, ?_⟩
      have h : Hands s.consumer request p.handed none objects _ := .unfinished session h
      simpa using h
    · refine .bind (.lift ((s.leaves_ending c).mono ?_))
      rintro result _ ⟨tail, ht, rfl⟩
      refine .pure ⟨objects, hp, ?_⟩
      have ht' : tail.reverse = [] ∨ ∃ a, tail.reverse = [.abandon c a] := by
        rcases ht with rfl | ⟨a, rfl⟩ <;> simp
      have h : Hands s.consumer request p.handed _ objects _ := .ended session h result ht'
      simpa using h
    · refine .pure ⟨objects, hp, ?_⟩
      have h : Hands s.consumer request p.handed _ objects _ := .cut session h
      simpa using h

end Search

end DirectoryClient
