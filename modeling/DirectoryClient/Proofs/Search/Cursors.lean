import DirectoryClient.Proofs.Scripted.Lawful
import DirectoryClient.Proofs.Scripted.Wire

/-!
# What a pass of a search does to its cursor

* `Act.Leads`          the answer of a computation and the network that it leads to;
* `Searching.Leads`    the same with progress (`Leads.bind`);
* `PassEnd.signal`     how the server learns that a pass has ended;
* `Transport.Left`     a cursor that was left at the end of a pass (`left_of_pass`);
* `cursors_ended`      every search is ended once, by passes and by guards.
-/

namespace DirectoryClient

variable {N O α β : Type}

/-! ## Where computations lead -/

/-- what holds of the answer and of the network afterwards, if the computation begins at `n` -/
def Act.Leads (x : Act N α) (n : N) (R : α → N → Prop) : Prop :=
  ∀ w : World N, w.net = n → R (x w).1 (x w).2.net

namespace Act.Leads

variable {x : Act N α} {n : N} {R : α → N → Prop}

theorem pure {a : α} (h : R a n) : Act.Leads (Pure.pure a : Act N α) n R := by
  rintro w rfl
  exact h

theorem bind {f : α → Act N β} {R : β → N → Prop}
    (h : x.Leads n fun a n' => (f a).Leads n' R) : Act.Leads (x >>= f) n R :=
  fun w hw => h w hw (x w).2 rfl

theorem call {act : N → α × N} {note : α → Event} (h : R (act n).1 (act n).2) :
    Act.Leads (World.call act note) n R := by
  rintro w rfl
  exact h

theorem record {e : Event} {R : Unit → N → Prop} (h : R () n) :
    Act.Leads (World.record e : Act N Unit) n R := by
  rintro w rfl
  exact h

end Act.Leads

def Searching.Leads (x : Searching N O α) (p : Progress O) (n : N)
    (R : α → Progress O → N → Prop) : Prop :=
  ∀ w : World N, w.net = n → R (x p w).1.1 (x p w).1.2 (x p w).2.net

namespace Searching.Leads

variable {x : Searching N O α} {p : Progress O} {n : N} {R R' : α → Progress O → N → Prop}

theorem mono (hx : Searching.Leads x p n R) (h : ∀ a p' n', R a p' n' → R' a p' n') :
    Searching.Leads x p n R' := fun w hw => h _ _ _ (hx w hw)

theorem pure {a : α} (h : R a p n) : Searching.Leads (Pure.pure a : Searching N O α) p n R := by
  rintro w rfl
  exact h

theorem bind {f : α → Searching N O β} {R : β → Progress O → N → Prop}
    (h : Searching.Leads x p n fun a p' n' => Searching.Leads (f a) p' n' R) :
    Searching.Leads (x >>= f) p n R :=
  fun w hw => h w hw (x p w).2 rfl

theorem lift {x : Act N α} (hx : x.Leads n fun a n' => R a p n') :
    Searching.Leads (liftM x : Searching N O α) p n R := fun w hw => hx w hw

theorem modify {f : Progress O → Progress O} {R : Unit → Progress O → N → Prop}
    (h : R () (f p) n) : Searching.Leads (modify f : Searching N O Unit) p n R := by
  rintro w rfl
  exact h

theorem get {R : Progress O → Progress O → N → Prop} (h : R p p n) :
    Searching.Leads (get : Searching N O (Progress O)) p n R := by
  rintro w rfl
  exact h

end Searching.Leads

/-! ## Ends of passes -/

namespace PassEnd

/-- the signal for a search that is still under way when a pass ends -/
def signal : PassEnd → Signal
  | .stopped => .abandon
  | .ended _ => .abandon
  | .failed _ => .cancel
  | .unmapped _ => .cancel

/-- whether a pass ends at an entry, so that the search is still under way -/
def AtEntry : PassEnd → Prop
  | .stopped => True
  | .ended _ => False
  | .failed _ => False
  | .unmapped _ => True

end PassEnd

/-- Since `n` a cursor was read by a pass, which ended as `e` and left it. -/
structure Transport.Left (t : Transport N) (sent : CursorId → N → List Signal) (c : CursorId)
    (e : PassEnd) (n n' : N) : Prop extends t.Ended sent c e.signal n n' where
  /-- a search that cannot have ended is ended by a signal -/
  told : e.AtEntry → sent c n' = e.signal :: sent c n

/-- where a cursor is when there is nothing more to read -/
def Transport.Streamed (t : Transport N) (sent : CursorId → N → List Signal) (c : CursorId)
    (n n' : N) : StreamEnd → Prop
  | .exhausted => t.Reads c n n'
  | .cut e => t.Left sent c e n n'

namespace Search

variable (s : Search N O) {sent : CursorId → N → List Signal}

theorem leads_hand (x : O) (p : Progress O) (n : N) :
    Searching.Leads (s.hand (N := N) x) p n fun _ _ n' => n' = n := by
  refine .bind (.modify (.bind (.get ?_)))
  exact .bind (.lift (.record (.pure rfl)))

theorem leads_discard (h : s.manager.transport.Signals sent) {c : CursorId} {n k : N}
    (hr : s.manager.transport.Reads c n k) {e : PassEnd} (he : e.signal = .cancel)
    (hd : e.AtEntry → s.manager.transport.isDone c k = false) :
    (s.manager.transport.discard c).Leads k fun _ n' =>
      s.manager.transport.Left sent c e n n' := by
  rintro w rfl
  refine ⟨he ▸ h.ended_discard hr, fun hat => ?_⟩
  rw [he]
  exact h.sent_discard_of_not_done hr (hd hat)

/-- The induction is on the number of responses that may be read: a response that is passed over or
handed on is one more reading of the cursor. -/
theorem leads_stream (h : s.manager.transport.Signals sent) {c : CursorId} {n k : N}
    (hr : s.manager.transport.Reads c n k) (fuel : Nat) (p : Progress O) :
    Searching.Leads (s.stream c fuel) p k fun o _ n' =>
      ∀ e, o = some e → s.manager.transport.Streamed sent c n n' e := by
  induction fuel generalizing k p with
  | zero => exact .pure nofun
  | succ fuel ih =>
    have hnext : s.manager.transport.Reads c n (s.manager.transport.next c k).2 := hr.tail .next
    have hopen := h.yields c k
    refine .bind (.lift (.call ?_))
    generalize s.manager.transport.next c k = answer at hnext hopen ⊢
    obtain ⟨f | _ | r, k⟩ := answer
    · refine .bind (.lift fun w hw => ?_)
      have hleft := s.leads_discard h hnext (e := .failed f) rfl nofun w hw
      refine .pure ?_
      rintro _ ⟨⟩
      exact hleft
    · refine .pure ?_
      rintro _ ⟨⟩
      exact hnext
    · have hd : s.manager.transport.isDone c k = false := hopen r rfl
      cases r with
      | entry e =>
        refine .bind (.modify ?_)
        dsimp only
        cases s.consumer.toObject e with
        | error err =>
          refine .bind (.lift fun w hw => ?_)
          have hleft := s.leads_discard h hnext (e := .unmapped err) rfl (fun _ => hd) w hw
          refine .pure ?_
          rintro _ ⟨⟩
          exact hleft
        | ok x =>
          refine .bind ((s.leads_hand x _ k).mono ?_)
          rintro more p' _ rfl
          cases more with
          | true => exact ih hnext p'
          | false =>
            refine .bind (.lift (.call (.pure ?_)))
            rintro _ ⟨⟩
            exact ⟨h.ended_send .abandon hnext, fun _ => h.sent_send_of_not_done .abandon hnext hd⟩
      | _ => exact ih hnext p

theorem leads_ending (h : s.manager.transport.Signals sent) {c : CursorId} {n k : N}
    (hr : s.manager.transport.Reads c n k) : (s.ending c).Leads k fun result n' =>
      s.manager.transport.Left sent c (.ended result) n n' := by
  refine .bind (.call (.bind fun w hw => .pure ?_))
  have hfinish : s.manager.transport.Reads c n w.net := hw ▸ hr.tail .finish
  exact ⟨h.ended_release hfinish, False.elim⟩

/-- A pass that ends has left its cursor. -/
theorem left_of_pass (h : s.manager.transport.Signals sent) {request : SearchRequest}
    {session : SessionId} {fuel : Nat} {p : Progress O} {w : World N} {c : CursorId}
    (hc : (s.manager.transport.search session request w.net).1 = .ok c) {e : PassEnd}
    (he : (s.pass request session fuel p w).1.1 = some e) :
    s.manager.transport.Left sent c e (s.manager.transport.search session request w.net).2
      (s.pass request session fuel p w).2.net := by
  suffices hl : Searching.Leads (s.pass request session fuel) p w.net fun o _ n' =>
      ∀ e, o = some e → s.manager.transport.Left sent c e
        (s.manager.transport.search session request w.net).2 n' from hl w rfl e he
  refine .bind (.lift (.call ?_))
  generalize s.manager.transport.search session request w.net = answer at hc ⊢
  obtain ⟨a, n⟩ := answer
  obtain rfl : a = .ok c := hc
  refine .bind ((s.leads_stream h .refl fuel p).mono fun o p' n' ho => ?_)
  rcases o with _ | (_ | e)
  · exact .pure nofun
  · refine .bind (.lift fun w hw => ?_)
    have hleft := s.leads_ending h (ho _ rfl) w hw
    refine .pure ?_
    rintro _ ⟨⟩
    exact hleft
  · refine .pure ?_
    rintro _ ⟨⟩
    exact ho _ rfl

end Search

/-- **Every search that was begun is ended exactly once**: by the pass that began it, on whatever
way it comes to its end, and by any guard, on whatever way it lets go. -/
theorem Transport.Signals.cursors_ended {t : Transport N} {sent : CursorId → N → List Signal}
    (h : t.Signals sent) :
    (∀ s : Search N O, s.manager.transport = t →
      ∀ (request : SearchRequest) (session : SessionId) (fuel : Nat) (p : Progress O)
        (w : World N) (c : CursorId) (e : PassEnd),
        (t.search session request w.net).1 = .ok c →
        (s.pass request session fuel p w).1.1 = some e →
        t.Left sent c e (t.search session request w.net).2
          (s.pass request session fuel p w).2.net) ∧
    ∀ (c : CursorId) (calls : List Guard.Call) (exit : Guard.Exit) (w : World N),
      t.Ended sent c exit.signal w.net (Guard.guarded t c calls exit w).2.net := by
  refine ⟨?_, fun c calls exit w => Guard.ended_guarded h c calls exit w⟩
  rintro s rfl request session fuel p w c e hc he
  exact s.left_of_pass h hc he

namespace Scripted

/-- a server that has an entry and something else to send, and where giving up fails -/
def obstinate : World Wired where
  net :=
    { net :=
        { hosts :=
            [("ldap.example.com:389",
              { abandon := .always (some .endOfStream)
                scripts := [.stream [.response .intermediate, .response (.entry { dn := "cn=a" }),
                  .response .intermediate] none] })]
          sessions := [{ key := "ldap.example.com:389", binary := ⟨[]⟩ }] } }
  registry := home
  chance := fun _ => 0

/-- a search that wants one entry -/
def glance : Search Wired Entry where
  manager :=
    { config := client.config, schema := .standard, classifier := .standard,
      transport := Wired.transport }
  options := {}
  classifier := .standard
  consumer := ⟨.ok, fun _ => false⟩

def glanced : (Option PassEnd × Progress Entry) × World Wired :=
  glance.pass (glance.options.request Dn.root "(objectClass=*)" .subtree []) ⟨1⟩ 3 {} obstinate

theorem cursors_ended_obstinate :
    glance.manager.transport.Signals Wired.sent ∧
      (Wired.transport.search ⟨1⟩ (glance.options.request Dn.root "(objectClass=*)" .subtree [])
        obstinate.net).1 = .ok ⟨1⟩ ∧
      glanced.1.1 = some .stopped ∧
      glanced.2.log.head? = some (.abandon ⟨1⟩ (.error .endOfStream)) ∧
      Wired.sent ⟨1⟩ glanced.2.net = [.abandon] := by
  have hc : (Wired.transport.search ⟨1⟩
      (glance.options.request Dn.root "(objectClass=*)" .subtree []) obstinate.net).1 =
        .ok ⟨1⟩ := by decide
  have he : glanced.1.1 = some .stopped := by decide
  refine ⟨Wired.signals, hc, he, rfl, ?_⟩
  have hleft := (Wired.signals.cursors_ended (O := Entry)).1 glance rfl _ ⟨1⟩ 3 {} obstinate ⟨1⟩ _ hc he
  exact hleft.told trivial

end Scripted

end DirectoryClient
