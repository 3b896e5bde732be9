import DirectoryClient.Proofs.Search.Stages

/-!
# The annals of a search

All that a search leaves in the record, pass by pass and in the order of time.

* `Reaches.exists_events`, `Walks.exists_events`   how to find what a search leaves, from what its
                          passes leave;
* `Annals`                what a search leaves, with the passes that it begins;
* `Walks.exists_annals`   every search leaves this, finished or not;
* `Annals.sent_eq`        each pass sends one request, on the session of its connection;
* `Annals.closings`       the sessions that a search closes.
-/

namespace DirectoryClient

/-- What a search leaves.  It is done if the last pass was not cut off by the bound on responses. -/
inductive Annals (policy : RetryPolicy) (request : SearchRequest) :
    Bool → List Leg → List Event → Prop
  | first {gap : List Event} (hg : Fetched gap) : Annals policy request true [] gap
  | pass {legs : List Leg} {l pass gap : List Event} {conn : Connection} {e : PassEnd}
      {o : Except ClientError PassOutcome} (h : Annals policy request true legs l)
      (hs : Sent conn.session request pass)
      (hi : Search.Interlude policy (UInt32.ofNat (legs.countP Leg.failed)) conn o gap) :
      Annals policy request true (legs ++ [⟨conn, some o⟩]) (l ++ (pass ++ .passed e :: gap))
  | cut {legs : List Leg} {l pass : List Event} {conn : Connection}
      (h : Annals policy request true legs l) (hs : Sent conn.session request pass) :
      Annals policy request false (legs ++ [⟨conn, none⟩]) (l ++ pass)

namespace Search

variable {N O : Type} {s : Search N O} {base : Dn} {request : SearchRequest}
  {failures : UInt32} {conn : Connection} {p p' : Progress O} {w w' : World N} {r : Round}
  {legs : List Leg} {a : Stage N O} {answer : Option (Except ClientError Unit)}

/-! ## Every search leaves annals -/

/-- What is left before the first pass. -/
theorem fetched_of_first {x : Except ClientError Connection}
    (h : s.firstConnection base w = (x, w')) :
    ∃ gap, w'.events = w.events ++ gap ∧ Fetched gap := by
  obtain ⟨gap, hlog, hgap⟩ := Manager.leaves_of_fetches (s.fetches_firstConnection base) w
  rw [h] at hlog
  exact ⟨gap.reverse, World.events_of_log hlog, hgap.reverse⟩

theorem Turns.exists_events (h : s.Turns base request failures conn p w r p' w') :
    ∃ pass gap, w'.events = w.events ++ (pass ++ .passed r.ending :: gap) ∧
      Sent conn.session request pass ∧
      (∃ objects, Hands s.consumer request p.handed (some r.ending) objects pass) ∧
      Interlude s.options.retry failures conn r.outcome gap := by
  obtain ⟨q, v, hpassed, hafter⟩ := h.exists_passed
  obtain ⟨pass, objects, hv, hsent, hhands, -⟩ := hpassed.left
  obtain ⟨gap, hgap, hinter, -⟩ := (interlude_of_after base failures conn r.outcome q).of_eq hafter
  refine ⟨pass, gap.reverse, ?_, hsent, ⟨objects, hhands⟩, hinter⟩
  rw [World.events_of_log hgap, hv]
  simp

/-- What is left before the first pass, and still when another pass has added to it, is left at every
stage. -/
theorem Reaches.exists_events {P : List Leg → List Event → Prop}
    (hfirst : ∀ gap, Fetched gap → P [] gap)
    (hnext : ∀ {legs a r b l}, s.Reaches base request p w legs a → s.Next base request a r b →
      P legs l → ∃ new, b.world.events = a.world.events ++ new ∧
        P (legs ++ [⟨a.conn, some r.outcome⟩]) (l ++ new))
    (h : s.Reaches base request p w legs a) :
    ∃ new, a.world.events = w.events ++ new ∧ P legs new := by
  induction h with
  | first h =>
    obtain ⟨gap, hw, hgap⟩ := fetched_of_first h.connected
    exact ⟨gap, hw, hfirst gap hgap⟩
  | next h hr ih =>
    obtain ⟨l, hw, hl⟩ := ih
    obtain ⟨new, hw', hnew⟩ := hnext h hr hl
    exact ⟨l ++ new, by rw [hw', hw, List.append_assoc], hnew⟩

/-- A search leaves what a stage leaves, and the last pass may add to it: one that the bound on
responses cuts off, or one after which the search is over. -/
theorem Walks.exists_events {P : List Leg → List Event → Prop}
    {Q : List Leg → Option (Except ClientError Unit) → Progress O → List Event → Prop}
    (hfirst : ∀ gap, Fetched gap → P [] gap)
    (hnext : ∀ {legs a r b l}, s.Reaches base request p w legs a → s.Next base request a r b →
      P legs l → ∃ new, b.world.events = a.world.events ++ new ∧
        P (legs ++ [⟨a.conn, some r.outcome⟩]) (l ++ new))
    (hrest : ∀ {legs answer p' l}, P legs l → answer ≠ some (.ok ()) → p'.complete = true →
      Q legs answer p' l)
    (hcut : ∀ {legs conn before p' objects l pass}, P legs l → Sent conn.session request pass →
      Hands s.consumer request before none objects pass → p'.complete = true →
      Q (legs ++ [⟨conn, none⟩]) none p' (l ++ pass))
    (hfinished : ∀ {legs a r answer p' w' l}, s.Reaches base request p w legs a →
      s.Turns base request a.failures a.conn a.progress a.world r p' w' →
      r.turn = .finished answer → P legs l → ∃ new, w'.events = a.world.events ++ new ∧
        Q (legs ++ [⟨a.conn, some r.outcome⟩]) (some answer) p' (l ++ new))
    (h : s.Walks base request p w legs answer p' w') :
    ∃ new, w'.events = w.events ++ new ∧ Q legs answer p' new := by
  cases h with
  | unconnected h =>
    obtain ⟨gap, hw, hgap⟩ := fetched_of_first h
    exact ⟨gap, hw, hrest (hfirst gap hgap) nofun rfl⟩
  | exhausted h ha =>
    obtain ⟨new, hw, hnew⟩ := h.exists_events hfirst hnext
    exact ⟨new, hw, hrest hnew nofun h.noted.complete⟩
  | resting h =>
    obtain ⟨new, hw, hnew⟩ := h.exists_events hfirst hnext
    exact ⟨new, hw, hrest hnew nofun h.noted.complete⟩
  | @cut legs a fuel p' w' h hpass =>
    obtain ⟨l, hw, hl⟩ := h.exists_events hfirst hnext
    obtain ⟨pass, hlog, ⟨objects, hgains, hhands⟩, hsent⟩ :=
      ((s.delivery_of_pass request a.conn.session fuel _).and
        (s.sent_of_pass request a.conn.session fuel _)).of_eq hpass
    have hcomplete : p'.complete = true := hgains.complete.trans h.noted.complete
    refine ⟨l ++ pass.reverse, ?_, hcut hl hsent hhands hcomplete⟩
    rw [World.events_of_log hlog, hw, List.append_assoc]
  | finished h ht hr =>
    obtain ⟨l, hw, hl⟩ := h.exists_events hfirst hnext
    obtain ⟨new, hw', hnew⟩ := hfinished h ht hr hl
    exact ⟨l ++ new, by rw [hw', hw, List.append_assoc], hnew⟩

/-- A round is added to what was left before. -/
theorem Turns.exists_annals (ht : s.Turns base request a.failures a.conn a.progress a.world r p' w')
    (hn : Noted legs a) {l : List Event} (hl : Annals s.options.retry request true legs l) :
    ∃ new, w'.events = a.world.events ++ new ∧
      Annals s.options.retry request true (legs ++ [⟨a.conn, some r.outcome⟩]) (l ++ new) := by
  obtain ⟨pass, gap, hevents, hsent, -, hinter⟩ := ht.exists_events
  rw [hn.failures] at hinter
  exact ⟨_, hevents, .pass hl hsent hinter⟩

/-- **Whatever a search comes to, it leaves annals of the passes that it begins.** -/
theorem Walks.exists_annals (h : s.Walks base request p w legs answer p' w') :
    ∃ new done, w'.events = w.events ++ new ∧ Annals s.options.retry request done legs new ∧
      (answer.isSome = true → done = true) := by
  obtain ⟨new, hw, done, hannals, hdone⟩ := h.exists_events
    (P := fun legs l => Annals s.options.retry request true legs l)
    (Q := fun legs answer _ l => ∃ done, Annals s.options.retry request done legs l ∧
      (answer.isSome = true → done = true))
    (fun _ hgap => .first hgap)
    (fun h hr hl => hr.turns.exists_annals h.noted hl)
    (fun hl _ _ => ⟨true, hl, fun _ => rfl⟩)
    (fun hl hsent _ _ => ⟨false, .cut hl hsent, nofun⟩)
    (fun h ht _ hl => by
      obtain ⟨new, hw, hnew⟩ := ht.exists_annals h.noted hl
      exact ⟨new, hw, true, hnew, fun _ => rfl⟩)
  exact ⟨new, done, hw, hannals, hdone⟩

end Search

/-! ## What annals say -/

/-- the session that is given up after a pass -/
def Leg.dropped? (leg : Leg) : Option SessionId :=
  if leg.outcome = some (.ok .reconnect) then some leg.conn.session else none

def Event.sent? : Event → Option (SessionId × SearchRequest)
  | .search session request _ => some (session, request)
  | _ => none

section
variable {α : Type} {f : Event → Option α}

/-- A line that is not of reading is not left by reading. -/
theorem filterMap_reading {l : List Event} (hf : ∀ e, e.IsReading → f e = none)
    (h : ∀ e ∈ l, e.IsReading) : l.filterMap f = [] :=
  List.filterMap_eq_nil_iff.mpr fun e he => hf e (h e he)

theorem Sent.filterMap_eq {session : SessionId} {request : SearchRequest} {l : List Event}
    (h : Sent session request l) (hf : ∀ e, e.IsReading → f e = none)
    (hs : ∀ a, f (.search session request a) = none) : l.filterMap f = [] := by
  obtain ⟨a, rest, rfl, hrest⟩ := h
  rw [List.filterMap_cons_none (hs a), filterMap_reading hf hrest]

theorem Sent.closed?_eq_nil {session : SessionId} {request : SearchRequest} {l : List Event}
    (h : Sent session request l) : l.filterMap Event.closed? = [] :=
  h.filterMap_eq (fun e he => by cases e <;> trivial) fun _ => rfl

theorem Fetched.filterMap_eq {l : List Event} (h : Fetched l)
    (hf : ∀ e, e.IsFetching → f e = none) : l.filterMap f = [] :=
  List.filterMap_eq_nil_iff.mpr fun e he => hf e (h.fetching e he)

end

namespace Annals

variable {policy : RetryPolicy} {request : SearchRequest} {done : Bool} {legs : List Leg}
  {l : List Event}

/-- **Each pass sends the request of the search, on the session of its connection.** -/
theorem sent_eq (h : Annals policy request done legs l) :
    l.filterMap Event.sent? = legs.map fun leg => (leg.conn.session, request) := by
  have hfetched {gap : List Event} (hg : Fetched gap) : gap.filterMap Event.sent? = [] :=
    hg.filterMap_eq fun e he => by cases e <;> trivial
  have hsent {session : SessionId} {pass : List Event} (hs : Sent session request pass) :
      pass.filterMap Event.sent? = [(session, request)] := by
    obtain ⟨a, rest, rfl, hrest⟩ := hs
    have hreading : rest.filterMap Event.sent? = [] :=
      filterMap_reading (fun e he => by cases e <;> trivial) hrest
    exact congrArg ((session, request) :: ·) hreading
  induction h with
  | first hg => exact hfetched hg
  | @pass legs l pass gap conn e o h hs hi ih =>
    have hgap : (Event.passed e :: gap).filterMap Event.sent? = [] := by
      cases hi with
      | failed err => rfl
      | done => rfl
      | repeated draw => rfl
      | @reconnected a draw l hl =>
        show l.filterMap Event.sent? = []
        exact hfetched hl
      | referred referral hl =>
        show gap.filterMap Event.sent? = []
        exact hfetched hl
    rw [List.filterMap_append, ih, List.filterMap_append, hsent hs, hgap, List.map_append]
    rfl
  | cut h hs ih =>
    rw [List.filterMap_append, ih, hsent hs, List.map_append]
    rfl

theorem closings_of_interlude {failures : UInt32} {conn : Connection}
    {o : Except ClientError PassOutcome} (h : Search.Interlude policy failures conn o l) :
    l.filterMap Event.closed? =
      (Leg.mk conn (some o)).dropped?.toList ++ l.filterMap Event.rejected? := by
  cases h with
  | failed err => rfl
  | done => rfl
  | repeated draw => rfl
  | @reconnected a draw l hl =>
    show conn.session :: l.filterMap Event.closed? = conn.session :: l.filterMap Event.rejected?
    rw [hl.closings]
  | referred referral hl => exact hl.closings

/-- **A search closes the sessions that its passes give up, each time once, and those that could not
be bound.** -/
theorem closings (h : Annals policy request done legs l) :
    (l.filterMap Event.closed?).Perm
      (legs.filterMap Leg.dropped? ++ l.filterMap Event.rejected?) := by
  have hrejected {session : SessionId} {pass : List Event} (hs : Sent session request pass) :
      pass.filterMap Event.rejected? = [] :=
    hs.filterMap_eq (fun e he => by cases e <;> trivial) fun _ => rfl
  induction h with
  | first hg => exact hg.closings ▸ .refl _
  | @pass legs l pass gap conn e o h hs hi ih =>
    have hgap := closings_of_interlude hi
    have hleg : [Leg.mk conn (some o)].filterMap Leg.dropped? =
        (Leg.mk conn (some o)).dropped?.toList := by
      cases hd : (Leg.mk conn (some o)).dropped? with
      | none => rw [List.filterMap_cons_none hd]; rfl
      | some session => rw [List.filterMap_cons_some hd]; rfl
    have hc : (Event.passed e :: gap).filterMap Event.closed? = gap.filterMap Event.closed? := rfl
    have hr : (Event.passed e :: gap).filterMap Event.rejected? =
        gap.filterMap Event.rejected? := rfl
    simp only [List.filterMap_append, hs.closed?_eq_nil, hrejected hs, hc, hr, hgap, hleg, List.nil_append]
    refine List.perm_iff_count.mpr fun session => ?_
    have hcount := ih.count_eq session
    simp only [List.count_append] at hcount ⊢
    omega
  | cut h hs ih =>
    rw [List.filterMap_append, List.filterMap_append, List.filterMap_append, hs.closed?_eq_nil,
      hrejected hs, List.append_nil, List.append_nil]
    exact ih.trans (by simp [Leg.dropped?])

end Annals

end DirectoryClient
