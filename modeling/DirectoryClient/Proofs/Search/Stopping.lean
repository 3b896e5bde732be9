import DirectoryClient.Proofs.Search.Annals
import DirectoryClient.Proofs.Scripted.Lawful

/-!
# Searches that are stopped

When the handler wants no more, the search gives up its cursor and is over.  Lists of events are in
the order of time here.

* `Hands.stops`       a pass that is stopped ends with the handler's refusal, and gives up its cursor;
* `Hands.not_mem`     in any other pass the handler never refuses;
* `Search.Refused`    what comes before the refusal and after it;
* `Search.refused_of_run`   nothing but this ever follows a refusal.
-/

namespace DirectoryClient

/-- what the handler says to an object -/
def Event.wish? : Event → Option Bool
  | .handed more => some more
  | _ => none

theorem mem_wish?_iff {more : Bool} {l : List Event} :
    more ∈ l.filterMap Event.wish? ↔ .handed more ∈ l := by
  refine List.mem_filterMap.trans ⟨?_, fun h => ⟨_, h, rfl⟩⟩
  rintro ⟨e, he, hw⟩
  cases e with
  | handed more' => exact Option.some.inj hw ▸ he
  | _ => cases hw

section
variable {O : Type} {k : Consumer O} {c : CursorId} {request : SearchRequest}
  {before objects : List O} {l : List Event}

/-- an event of reading a cursor on which an object may be handed over and more are wanted -/
def Event.IsReadingOn (c : CursorId) : Event → Prop
  | .next c' _ => c' = c
  | .handed more => more = true
  | _ => False

theorem isReadingOn_heard (responses : List Response) :
    ∀ e ∈ responses.flatMap (heard c), e.IsReadingOn c := by
  intro e he
  obtain ⟨r, -, hr⟩ := List.mem_flatMap.mp he
  rcases List.mem_cons.mp hr with rfl | hr
  · rfl
  · split at hr
    · obtain rfl := List.mem_singleton.mp hr
      rfl
    · cases hr

theorem not_mem_of_isReadingOn (h : ∀ e ∈ l, e.IsReadingOn c) : Event.handed false ∉ l :=
  fun hm => Bool.false_ne_true (h _ hm)

/-- A pass that is stopped: the handler refuses the last entry, and the cursor is given up. -/
theorem Hands.stops (h : Hands k request before (some .stopped) objects l) :
    k.wantsMore (before ++ objects) = false ∧ ∃ session c reads e a,
      l = .search session request (.ok c) ::
        (reads ++ [.next c (.ok (some (.entry e))), .handed false, .abandon c a]) ∧
      ∀ x ∈ reads, x.IsReadingOn c := by
  cases h with
  | @cut session c e objects l h =>
    cases h with
    | @intro responses given last closing hgiven hmore hclose =>
      cases hclose with
      | @stopped e x hx hm a =>
        rw [← List.append_assoc]
        exact ⟨hm, session, c, _, e, a, rfl, isReadingOn_heard responses⟩

theorem Closes.not_mem {o : Option StreamEnd} (h : Closes k c before o objects l)
    (ho : o ≠ some (.cut .stopped)) : Event.handed false ∉ l := by
  cases h with
  | unfinished => exact List.not_mem_nil
  | exhausted => simp
  | failed f ht => rcases ht with rfl | rfl <;> simp
  | unmapped hx ht => rcases ht with rfl | rfl <;> simp
  | stopped hx hm a => exact absurd rfl ho

theorem Handing.not_mem {o : Option StreamEnd} (h : Handing k c before o objects l)
    (ho : o ≠ some (.cut .stopped)) : Event.handed false ∉ l := by
  cases h with
  | @intro responses given last closing hgiven hmore hclose =>
    intro hm
    rcases List.mem_append.mp hm with hm | hm
    · exact not_mem_of_isReadingOn (isReadingOn_heard responses) hm
    · exact hclose.not_mem ho hm

/-- In a pass that is not stopped the handler never refuses. -/
theorem Hands.not_mem {o : Option PassEnd} (h : Hands k request before o objects l)
    (ho : o ≠ some .stopped) : Event.handed false ∉ l := by
  cases h with
  | refused session f => simp
  | unfinished session h => simpa using h.not_mem nofun
  | @cut session c e objects l h =>
    have hcut : some (StreamEnd.cut e) ≠ some (.cut .stopped) :=
      fun he => ho (by rw [StreamEnd.cut.inj (Option.some.inj he)])
    simpa using h.not_mem hcut
  | @ended session c objects l h result tail ht =>
    have htail : Event.handed false ∉ tail := by rcases ht with rfl | ⟨a, rfl⟩ <;> simp
    simpa [htail] using h.not_mem nofun

end

namespace Search

variable {N O : Type} {s : Search N O} {base : Dn} {request : SearchRequest} {failures : UInt32}
  {conn : Connection} {p p' : Progress O} {w w' : World N} {r : Round} {legs : List Leg}
  {a : Stage N O} {answer : Option (Except ClientError Unit)}

/-- What comes before the refusal of a handler and after it.  Before it there is the entry that was
handed over, read from a cursor of the last request; after it that cursor is given up, whatever
comes of this, and the pass is over. -/
structure Refused (request : SearchRequest) (before after : List Event) : Prop where
  first : Event.handed false ∉ before
  cursor : ∃ earlier session c reads e a,
    before = earlier ++ .search session request (.ok c) ::
      (reads ++ [.next c (.ok (some (.entry e)))]) ∧
    (∀ x ∈ reads, x.IsReadingOn c) ∧ after = [.abandon c a, .passed .stopped]

theorem Interlude.not_mem {policy : RetryPolicy} {o : Except ClientError PassOutcome}
    {gap : List Event} (h : Interlude policy failures conn o gap) : Event.handed false ∉ gap := by
  have hfetched {l : List Event} (hl : Fetched l) : Event.handed false ∉ l :=
    fun hm => hl.fetching _ hm
  cases h with
  | failed err => exact List.not_mem_nil
  | done => exact List.not_mem_nil
  | repeated draw => simp
  | reconnected a draw hl => simpa using hfetched hl
  | referred referral hl => exact hfetched hl

/-- A turn without a refusal: the handler never refused, and the pass was not stopped. -/
theorem Turns.not_stopped (h : s.Turns base request failures conn p w r p' w')
    (hr : r.ending ≠ .stopped) :
    ∃ new, w'.events = w.events ++ new ∧ Event.handed false ∉ new := by
  obtain ⟨pass, gap, hevents, -, ⟨objects, hhands⟩, hinter⟩ := h.exists_events
  refine ⟨_, hevents, fun hm => ?_⟩
  rcases List.mem_append.mp hm with hm | hm
  · exact hhands.not_mem (fun he => hr (Option.some.inj he)) hm
  · exact hinter.not_mem ((List.mem_cons.mp hm).resolve_left nofun)

/-- A pass that another one follows was not stopped. -/
theorem Next.not_stopped {b : Stage N O} (h : s.Next base request a r b) : r.ending ≠ .stopped := by
  intro hr
  obtain ⟨v, x, hpassed, hx, honward⟩ := h.turns.exists_onward h.again
  obtain ⟨record, hjudge⟩ := hpassed.judged
  rw [hr, hx] at hjudge
  exact honward.failures_eq.1 (Except.ok.inj hjudge)

/-- A pass that is stopped ends the search, and nothing is done about it. -/
theorem Turns.of_stopped (h : s.Turns base request failures conn p w r p' w')
    (hr : r.ending = .stopped) :
    r.turn = .finished (.ok ()) ∧ p'.complete = p.complete ∧
      s.consumer.wantsMore p'.handed = false ∧ ∃ session c reads e a,
        w'.events = w.events ++ (.search session request (.ok c) ::
          (reads ++ [.next c (.ok (some (.entry e)))]) ++
            .handed false :: [.abandon c a, .passed .stopped]) ∧
        ∀ x ∈ reads, x.IsReadingOn c := by
  obtain ⟨hpassed, hturn⟩ := h.over (.ok ()) fun _ => by rw [hr]; rfl
  obtain ⟨pass, objects, hv, -, hhands, hhanded⟩ := hpassed.left
  obtain ⟨p₁, hcomplete, -, hq⟩ := hpassed.noted
  rw [hr] at hv hhands hq
  obtain ⟨hwants, session, c, reads, e, a, rfl, hreads⟩ := hhands.stops
  refine ⟨hturn, ?_, ?_, session, c, reads, e, a, ?_, hreads⟩
  · rw [hq]
    exact hcomplete
  · rw [hhanded]
    exact hwants
  · rw [hv]
    simp

/-- There is no refusal in what a search leaves, or a single one that ends it. -/
theorem Walks.refusal (h : s.Walks base request p w legs answer p' w') :
    ∃ new, w'.events = w.events ++ new ∧ (Event.handed false ∉ new ∨
      ∃ before after, new = before ++ .handed false :: after ∧ Refused request before after ∧
        answer = some (.ok ()) ∧ p'.complete = true ∧ s.consumer.wantsMore p'.handed = false) := by
  have not_mem_append {l new : List Event} (hl : Event.handed false ∉ l)
      (hnew : Event.handed false ∉ new) : Event.handed false ∉ l ++ new :=
    fun hm => (List.mem_append.mp hm).elim hl hnew
  refine h.exists_events (P := fun _ l => Event.handed false ∉ l)
    (Q := fun _ answer p' new => Event.handed false ∉ new ∨
      ∃ before after, new = before ++ .handed false :: after ∧ Refused request before after ∧
        answer = some (.ok ()) ∧ p'.complete = true ∧ s.consumer.wantsMore p'.handed = false)
    ?first ?next ?rest ?cut ?finished
  case first => exact fun gap hgap hm => hgap.fetching _ hm
  case next =>
    intro legs a r b l h hr hl
    obtain ⟨new, hw, hnew⟩ := hr.turns.not_stopped hr.not_stopped
    exact ⟨new, hw, not_mem_append hl hnew⟩
  case rest => exact fun hl _ _ => .inl hl
  case cut => exact fun hl _ hhands _ => .inl (not_mem_append hl (hhands.not_mem nofun))
  case finished =>
    intro legs a r answer p' w' l h ht hr hl
    by_cases hstop : r.ending = .stopped
    · obtain ⟨hturn, hcomplete, hwants, session, c, reads, e, b, hw', hreads⟩ :=
        ht.of_stopped hstop
      have hfirst : Event.handed false ∉ l ++ .search session request (.ok c) ::
          (reads ++ [.next c (.ok (some (.entry e)))]) := by
        simp [hl, not_mem_of_isReadingOn hreads]
      have hanswer : answer = .ok () := Turn.finished.inj (hr.symm.trans hturn)
      refine ⟨_, hw', .inr ⟨_, _, List.append_assoc .. |>.symm,
        ⟨hfirst, l, session, c, reads, e, b, rfl, hreads, rfl⟩, by rw [hanswer], ?_, hwants⟩⟩
      rw [hcomplete]
      exact h.noted.complete
    · obtain ⟨new, hw', hnew⟩ := ht.not_stopped hstop
      exact ⟨new, hw', .inl (not_mem_append hl hnew)⟩

/-- **From the moment when the handler wants no more a search does nothing but give up the cursor of
the current request, and it succeeds with a complete result.**  This is so in whatever pass and after
whatever else has happened: the refusal is the first one, and there is no other. -/
theorem refused_of_run (s : Search N O) (base : Dn) (filter : String) (scope : Scope)
    (attributes : List String) (fuel : Nat) (p : Progress O) (w : World N) :
    ∃ new, (s.run base filter scope attributes fuel p w).2.events = w.events ++ new ∧
      ∀ before after, new = before ++ .handed false :: after →
        Refused (s.options.request base filter scope attributes) before after ∧
        (s.run base filter scope attributes fuel p w).1.1 = some (.ok ()) ∧
        (s.run base filter scope attributes fuel p w).1.2.complete = true ∧
        s.consumer.wantsMore (s.run base filter scope attributes fuel p w).1.2.handed = false := by
  obtain ⟨legs, hwalks⟩ := s.walks_run base filter scope attributes fuel p w
  obtain ⟨new, hnew, hcases⟩ := hwalks.refusal
  refine ⟨new, hnew, fun before after heq => ?_⟩
  rcases hcases with hnone | ⟨before', after', heq', hrefused, hrest⟩
  · exact absurd (heq ▸ List.mem_append_right _ List.mem_cons_self) hnone
  · obtain ⟨earlier, session, c, reads, e, a, -, -, hafter⟩ := hrefused.cursor
    have hnot : Event.handed false ∉ after' := by simp [hafter]
    have hsplit := (List.append_cons_inj_of_notMem hrefused.first hnot).mp (heq'.symm.trans heq)
    obtain ⟨rfl, -, rfl⟩ := hsplit
    exact ⟨hrefused, hrest⟩

end Search

namespace Scripted

/-- a server that loses a search after one entry and then has two more -/
def resuming : Network where
  hosts :=
    [("ldap.example.com:389",
      { abandon := .always (some .endOfStream)
        scripts :=
          [.stream [.response (.entry { dn := "cn=a" }), .failure .endOfStream false .sessionLost]
            none,
          .stream [.response (.entry { dn := "cn=b" }), .response (.entry { dn := "cn=c" })]
            (some { code := ResultCode.success })] })]

/-- a search that wants two entries -/
def content : Search Network Entry where
  manager := client
  options := { retry := .immediate }
  classifier := .standard
  consumer := ⟨.ok, fun entries => entries.length < 2⟩

def resumed : (Option (Except ClientError Unit) × Progress Entry) × World Network :=
  content.run Dn.root "(objectClass=*)" .subtree [] 5 {} (started resuming)

/-- The handler refuses after a pass that failed, and the server does not let the search be given up. -/
theorem refused_of_run_resumed :
    ∃ before after, resumed.2.events = before ++ .handed false :: after ∧
      Search.Refused (content.options.request Dn.root "(objectClass=*)" .subtree []) before after ∧
      (resumed.1.2.handed.map fun e => e.dn) = ["cn=a", "cn=b"] ∧
      resumed.1.1 = some (.ok ()) ∧ resumed.1.2.complete = true := by
  have hhanded : (resumed.1.2.handed.map fun e => e.dn) = ["cn=a", "cn=b"] := by decide +kernel
  have hmem : Event.handed false ∈ resumed.2.events := by
    have hfalse : false ∈ resumed.2.events.filterMap Event.wish? := by decide +kernel
    exact mem_wish?_iff.mp hfalse
  unfold resumed at hhanded hmem ⊢
  obtain ⟨before, after, heq⟩ := List.append_of_mem hmem
  obtain ⟨new, hnew, hstop⟩ := Search.refused_of_run content Dn.root "(objectClass=*)" .subtree []
    5 {} (started resuming)
  rw [show (started resuming).events = [] from rfl, List.nil_append] at hnew
  obtain ⟨hrefused, hanswer, hcomplete, -⟩ := hstop before after (hnew.symm.trans heq)
  exact ⟨before, after, heq, hrefused, hhanded, hanswer, hcomplete⟩

end Scripted

end DirectoryClient
