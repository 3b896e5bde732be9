import DirectoryClient.Proofs.Scripted.Lawful
import DirectoryClient.Proofs.Search.Handing
import DirectoryClient.Proofs.Search.Outcome
import Mathlib.Data.List.Chain

/-!
# What a search hands over

Every pass of a search begins anew, whatever was handed over before.  Lists of events are in the
order of time here.

* `Delivers`         what a search leaves, and the objects that each pass hands over;
* `Delivers.flatten_eq`   the record alone says which objects were handed over;
* `Event.GoesOn`     after a response without an entry the next one is read;
* `Search.Delivered`   a part of a search that hands over objects (`delivery_of_passes`);
* `delivery_of_run`  every search is such a delivery, finished or not.
-/

namespace DirectoryClient

section
variable {O : Type} {k : Consumer O} {c : CursorId} {request : SearchRequest}

/-- What a search leaves, and the objects that each of its passes hands over.  It is done if every
pass has ended. -/
inductive Delivers (k : Consumer O) (request : SearchRequest) :
    List O → Bool → List (List O) → List Event → Prop
  | none {before : List O} {gap : List Event} (hg : Between gap) :
      Delivers k request before true [] gap
  | unfinished {before objects : List O} {gap events : List Event} (hg : Between gap)
      (he : Hands k request before none objects events) :
      Delivers k request before false [objects] (gap ++ events)
  | pass {before objects : List O} {e : PassEnd} {done : Bool} {passes : List (List O)}
      {gap events l : List Event} (hg : Between gap)
      (he : Hands k request before (some e) objects events)
      (h : Delivers k request (before ++ objects) done passes l) :
      Delivers k request before done (objects :: passes) (gap ++ (events ++ .passed e :: l))

namespace Delivers

variable {before : List O} {done : Bool} {passes passes' : List (List O)} {l l' gap : List Event}

theorem after (hg : Between gap) (h : Delivers k request before done passes l) :
    Delivers k request before done passes (gap ++ l) := by
  cases h with
  | none hg' => exact .none (hg.append hg')
  | unfinished hg' he =>
    rw [← List.append_assoc]
    exact .unfinished (hg.append hg') he
  | pass hg' he h =>
    rw [← List.append_assoc]
    exact .pass (hg.append hg') he h

theorem append (h : Delivers k request before true passes l)
    (h' : Delivers k request (before ++ passes.flatten) done passes' l') :
    Delivers k request before done (passes ++ passes') (l ++ l') := by
  generalize hd : true = d at h
  induction h with
  | none hg =>
    rw [List.flatten_nil, List.append_nil] at h'
    exact h'.after hg
  | unfinished hg he => cases hd
  | pass hg he h ih =>
    rw [List.flatten_cons, ← List.append_assoc] at h'
    have h := Delivers.pass hg he (ih h' hd)
    simpa using h

end Delivers

theorem Between.objects_eq (k : Consumer O) {l : List Event} (h : Between l) :
    l.filterMap (Event.object? k) = [] := by
  refine List.filterMap_eq_nil_iff.mpr fun e he => ?_
  have hb := h e he
  cases e with
  | next c a => exact absurd hb id
  | _ => rfl

/-- The entries that came in and gave objects are those that were handed over. -/
theorem Delivers.flatten_eq {before : List O} {done : Bool} {passes : List (List O)}
    {l : List Event} (h : Delivers k request before done passes l) :
    passes.flatten = l.filterMap (Event.object? k) := by
  induction h with
  | none hg => rw [hg.objects_eq k, List.flatten_nil]
  | unfinished hg he =>
    rw [List.filterMap_append, hg.objects_eq k, he.objects_eq, List.flatten_singleton,
      List.nil_append]
  | pass hg he h ih =>
    rw [List.filterMap_append, List.filterMap_append, hg.objects_eq k, he.objects_eq,
      List.flatten_cons, ih]
    rfl

/-! ## What is passed over -/

/-- a response without an entry -/
def Event.IsPassedOver : Event → Prop
  | .next _ (.ok (some r)) => r.found? = none
  | _ => False

/-- A response without an entry makes the client read the next one of its cursor. -/
def Event.GoesOn : Event → Event → Prop
  | .next c (.ok (some r)), e => r.found? = none → ∃ a, e = .next c a
  | _, _ => True

theorem Event.GoesOn.of_not {e : Event} (h : ¬ e.IsPassedOver) (e' : Event) : e.GoesOn e' := by
  rcases e with _ | _ | _ | _ | _ | _ | ⟨c, _ | _ | r⟩ | _ | _ | _ | _ | _ | _
  case next.ok.some => exact fun hr => absurd hr h
  all_goals trivial

/-- Whatever follows lines that pass nothing over, the search goes on. -/
theorem isChain_append {l l' : List Event} (hl : ∀ e ∈ l, ¬ e.IsPassedOver)
    (h : l'.IsChain Event.GoesOn) : (l ++ l').IsChain Event.GoesOn := by
  induction l with
  | nil => exact h
  | cons e l ih =>
    obtain ⟨he, hl⟩ := List.forall_mem_cons.mp hl
    exact (ih hl).cons fun e' _ => .of_not he e'

section
variable {before objects : List O} {l l' : List Event}

/-- A response is followed by the next call of its cursor at the latest when that was handed over. -/
theorem isChain_heard (responses : List Response) (h : l.IsChain Event.GoesOn)
    (hl : ∀ e ∈ l.head?, ∃ a, e = .next c a) :
    (responses.flatMap (heard c) ++ l).IsChain Event.GoesOn ∧
      ∀ e ∈ (responses.flatMap (heard c) ++ l).head?, ∃ a, e = .next c a := by
  induction responses with
  | nil => exact ⟨h, hl⟩
  | cons r responses ih =>
    rw [List.flatMap_cons, List.append_assoc]
    refine ⟨?_, fun e he => ⟨_, (Option.some.inj he).symm⟩⟩
    cases r with
    | entry e =>
      refine isChain_append (l := heard c (.entry e)) ?_ ih.1
      simp [heard, Event.IsPassedOver, Response.found?]
    | reference urls => exact ih.1.cons fun e he _ => ih.2 e he
    | intermediate => exact ih.1.cons fun e he _ => ih.2 e he

theorem Closes.isChain {o : Option StreamEnd} (h : Closes k c before o objects l)
    (ho : o = none → l' = []) (h' : l'.IsChain Event.GoesOn) :
    (l ++ l').IsChain Event.GoesOn ∧ ∀ e ∈ (l ++ l').head?, ∃ a, e = .next c a := by
  cases h with
  | unfinished => simp [ho rfl]
  | exhausted => exact ⟨isChain_append (by simp [Event.IsPassedOver]) h', by simp⟩
  | failed f ht =>
    refine ⟨isChain_append ?_ h', by simp⟩
    rcases ht with rfl | rfl <;> simp [Event.IsPassedOver]
  | unmapped hx ht =>
    refine ⟨isChain_append ?_ h', by simp⟩
    rcases ht with rfl | rfl <;> simp [Event.IsPassedOver, Response.found?]
  | stopped hx hm a =>
    exact ⟨isChain_append (by simp [Event.IsPassedOver, Response.found?]) h', by simp⟩

theorem Handing.isChain {o : Option StreamEnd} (h : Handing k c before o objects l)
    (ho : o = none → l' = []) (h' : l'.IsChain Event.GoesOn) :
    (l ++ l').IsChain Event.GoesOn := by
  cases h with
  | @intro responses given last closing hgiven hmore hclose =>
    obtain ⟨hclosing, hhead⟩ := hclose.isChain ho h'
    rw [List.append_assoc]
    exact (isChain_heard responses hclosing hhead).1

theorem Hands.isChain {o : Option PassEnd} (h : Hands k request before o objects l)
    (ho : o = none → l' = []) (h' : l'.IsChain Event.GoesOn) :
    (l ++ l').IsChain Event.GoesOn := by
  have search {session : SessionId} {a : Except Failure CursorId} {l : List Event}
      (hl : l.IsChain Event.GoesOn) :
      (.search session request a :: l : List Event).IsChain Event.GoesOn :=
    hl.cons fun _ _ => trivial
  cases h with
  | refused session f => exact search h'
  | unfinished session h => exact search (h.isChain (fun _ => ho rfl) h')
  | cut session h => exact search (h.isChain nofun h')
  | @ended session c objects l h result tail ht =>
    have htail : (.finish c result :: tail ++ l' : List Event).IsChain Event.GoesOn := by
      refine isChain_append ?_ h'
      rcases ht with rfl | ⟨a, rfl⟩ <;> simp [Event.IsPassedOver]
    rw [List.cons_append, List.append_assoc]
    exact search (h.isChain nofun htail)

theorem Between.not_isPassedOver (h : Between l) : ∀ e ∈ l, ¬ e.IsPassedOver := by
  intro e he
  have hb := h e he
  cases e with
  | next c a => exact absurd hb id
  | _ => exact id

theorem Delivers.isChain {done : Bool} {passes : List (List O)}
    (h : Delivers k request before done passes l) : l.IsChain Event.GoesOn := by
  induction h with
  | none hg => simpa using isChain_append hg.not_isPassedOver .nil
  | unfinished hg he =>
    have hevents := he.isChain (fun _ => rfl) List.isChain_nil
    rw [List.append_nil] at hevents
    exact isChain_append hg.not_isPassedOver hevents
  | pass hg he h ih =>
    exact isChain_append hg.not_isPassedOver (he.isChain nofun (ih.cons fun _ _ => trivial))

end

end

/-! ## Searches deliver -/

namespace Search

variable {N O : Type} (s : Search N O)

/-- what a part of a search hands over; it is finished if it has an answer -/
def Delivered (request : SearchRequest) (p p' : Progress O) (finished : Bool) (l : List Event) :
    Prop :=
  ∃ passes done, Delivers s.consumer request p.handed done passes l ∧
    p'.handed = p.handed ++ passes.flatten ∧ (finished = true → done = true)

theorem delivery_of_turn (base : Dn) (request : SearchRequest) (fuel : Nat) (failures : UInt32)
    (conn : Connection) (p : Progress O) :
    Searching.Leaves (s.turn base request fuel failures conn) p fun o p' l =>
      s.Delivered request p p' o.isSome l.reverse := by
  refine .bind (.get ?_)
  cases s.options.retry.allowsAttempt (p.attempts + 1) with
  | false => exact .pure ⟨[], true, .none .nil, (List.append_nil _).symm, fun _ => rfl⟩
  | true =>
    refine .bind (.modify (.bind ((s.delivery_of_pass request conn.session fuel _).mono ?_)))
    rintro o p' l ⟨objects, hp, h⟩
    have hp' : p'.handed = p.handed ++ [objects].flatten := by
      rw [hp.handed, List.flatten_singleton]
      rfl
    cases o with
    | none =>
      refine .pure ⟨[objects], false, ?_, hp', nofun⟩
      have h : Delivers s.consumer request p.handed _ _ _ := .unfinished .nil h
      simpa using h
    | some e =>
      refine .bind ((s.leaves_noted conn e p').mono ?_)
      rintro o _ _ ⟨rfl, rfl⟩
      refine .bind ((s.leaves_after base failures conn o _).mono ?_)
      rintro t _ gap ⟨hgap, rfl, -, -⟩
      refine .pure ⟨[objects], true, ?_, ?_, fun _ => rfl⟩
      · have h : Delivers s.consumer request p.handed true _ _ :=
          .pass .nil h (.none hgap.reverse)
        simpa using h
      · rw [Progress.handed_noting, hp']

variable {s} in
/-- One part of a search after another. -/
theorem Delivered.trans {request : SearchRequest} {p p' p'' : Progress O} {finished : Bool}
    {l l' : List Event} (h : s.Delivered request p p' true l)
    (h' : s.Delivered request p' p'' finished l') : s.Delivered request p p'' finished (l ++ l') := by
  obtain ⟨passes, done, hl, hp, hdone⟩ := h
  obtain ⟨passes', done', hl', hp', hdone'⟩ := h'
  obtain rfl := hdone rfl
  rw [hp] at hl'
  refine ⟨passes ++ passes', done', hl.append hl', ?_, hdone'⟩
  rw [hp', hp, List.flatten_append, List.append_assoc]

theorem delivery_of_passes (base : Dn) (request : SearchRequest) (fuel : Nat)
    (failures : UInt32) (conn : Connection) (p : Progress O) :
    Searching.Leaves (s.passes base request fuel failures conn) p fun o p' l =>
      s.Delivered request p p' o.isSome l.reverse := by
  induction fuel generalizing failures conn p with
  | zero => exact .pure ⟨[], true, .none .nil, (List.append_nil _).symm, nofun⟩
  | succ fuel ih =>
    refine .bind ((s.delivery_of_turn base request fuel failures conn p).mono ?_)
    intro o p' l h
    rcases o with _ | (answer | ⟨failures, conn⟩)
    · exact .pure h
    · exact .pure h
    · refine (ih failures conn p').mono fun o p'' l' h' => ?_
      rw [List.reverse_append]
      exact h.trans h'

theorem delivery_of_search (base : Dn) (filter : String) (scope : Scope)
    (attributes : List String) (fuel : Nat) (p : Progress O) :
    Searching.Leaves (s.run base filter scope attributes fuel) p fun o p' l =>
      s.Delivered (s.options.request base filter scope attributes) p p' o.isSome l.reverse := by
  have hfirst := Manager.leaves_of_follows (s.follows_firstConnection base)
  refine .bind (.modify (.bind (.lift (hfirst.mono fun a gap hgap => ?_))))
  -- the first pass begins with what was handed over by then
  have hgap' : s.Delivered (s.options.request base filter scope attributes) p p.restarted true
      gap.reverse := ⟨[], true, .none hgap.reverse, (List.append_nil _).symm, fun _ => rfl⟩
  cases a with
  | error err => exact .pure (by simpa using hgap')
  | ok conn =>
    refine (s.delivery_of_passes base _ fuel 0 conn _).mono fun o p' l h => ?_
    have h := hgap'.trans h
    simpa using h

/-- **A search hands over the objects of the entries that its cursors give, pass by pass and in their
order.**  Each pass hands over what its own cursor gives until it ends, whatever was handed over
before; a response without an entry leads to the next response and to nothing else, and no pass
changes the registry. -/
theorem delivery_of_run (base : Dn) (filter : String) (scope : Scope) (attributes : List String)
    (fuel : Nat) (p : Progress O) (w : World N) :
    (∃ new passes done, (s.run base filter scope attributes fuel p w).2.log = new ++ w.log ∧
      Delivers s.consumer (s.options.request base filter scope attributes) p.handed done passes
        new.reverse ∧
      (s.run base filter scope attributes fuel p w).1.2.handed = p.handed ++ passes.flatten ∧
      passes.flatten = new.reverse.filterMap (Event.object? s.consumer) ∧
      new.reverse.IsChain Event.GoesOn ∧
      ((s.run base filter scope attributes fuel p w).1.1.isSome = true → done = true)) ∧
    ∀ request session fuel p w, (s.pass request session fuel p w).2.registry = w.registry := by
  refine ⟨?_, s.registry_pass⟩
  obtain ⟨new, hlog, passes, done, hdelivers, hhanded, hdone⟩ :=
    s.delivery_of_search base filter scope attributes fuel p w
  exact ⟨new, passes, done, hlog, hdelivers, hhanded, hdelivers.flatten_eq, hdelivers.isChain, hdone⟩

end Search

namespace Scripted

/-- a server that breaks off after its first entry and then begins anew -/
def forgetful : Network where
  hosts :=
    [("ldap.example.com:389",
      { scripts :=
          [.stream [.response (.entry { dn := "cn=a" }), .failure .endOfStream false .sessionLost]
            none,
          .stream [.response (.reference ["ldap://r1/"]), .response (.entry { dn := "cn=a" }),
            .response (.entry { dn := "cn=b" })] (some { code := ResultCode.success })] })]

/-- a search that wants all entries -/
def eager : Search Network Entry where
  manager := client
  options := {}
  classifier := .standard
  consumer := ⟨.ok, fun _ => true⟩

example : ((eager.run Dn.root "(objectClass=*)" .subtree [] 5 {}
    (started forgetful)).1.2.handed.map fun e => e.dn) = ["cn=a", "cn=a", "cn=b"] := by
  decide +kernel

end Scripted

end DirectoryClient
