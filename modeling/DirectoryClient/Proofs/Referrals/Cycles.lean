import DirectoryClient.Proofs.Scripted.Steady
import Mathlib.Data.Fintype.Card
import Mathlib.Data.Set.Finite.Basic

/-!
# Cycles of referrals

A client follows referrals without an account of where it was.  Among servers that answer every
search alike it comes to an end if no cycle can be reached, and may go round in a cycle for ever.

* `Endless`            a cycle can be reached from a site;
* `acc_of_not_endless` without a cycle, chains of referrals are finite;
* `attains_pass`       a pass reads what its server has posted, and ends with the result;
* `exists_turns_at`, `exists_turns_of_drawn`   what follows a pass;
* `exists_course_at`      where chains are finite there is a last pass, by induction on referrals;
* `passes_eq_none`     in a cycle every bound is reached, by induction on the bound;
* `halts_unless_endless`   both for whole searches.
-/

namespace DirectoryClient

open Relation

/-! ## Chains of referrals -/

/-- A cycle of referrals can be reached. -/
def Endless (posting : Site → Posting) (x : Site) : Prop :=
  ∃ y, ReflTransGen (Refers posting) x y ∧ TransGen (Refers posting) y y

/-- Success, or a referral to sites among these. -/
def AnswersWithin (sites : Set Site) (posting : Site → Posting) : Prop :=
  ∀ x ∈ sites, ((posting x).result.code = ResultCode.success ∨
    (posting x).result.code = ResultCode.referral) ∧ ∀ y, Refers posting x y → y ∈ sites

section
variable {sites : Set Site} {posting : Site → Posting} {x : Site}

theorem Endless.exists_refers (h : Endless posting x) :
    ∃ y, Refers posting x y ∧ Endless posting y := by
  obtain ⟨z, hreach, hcycle⟩ := h
  rcases hreach.cases_head with rfl | ⟨y, hxy, hyz⟩
  · obtain ⟨y, hxy, hyx⟩ := TransGen.head'_iff.mp hcycle
    exact ⟨y, hxy, x, hyx, hcycle⟩
  · exact ⟨y, hxy, z, hyz, hcycle⟩

/-- Among finitely many sites, chains of referrals that reach no cycle are finite. -/
theorem acc_of_not_endless (hfin : sites.Finite) (hwithin : AnswersWithin sites posting)
    (hx : x ∈ sites) (hend : ¬ Endless posting x) : Acc (flip (Refers posting)) x := by
  let reached := {y // y ∈ sites ∧ ReflTransGen (Refers posting) x y}
  let before (b a : reached) : Prop := TransGen (Refers posting) a.1 b.1
  have hwf : WellFounded before := by
    have hfinite : Finite reached := (hfin.subset fun y hy => hy.1).to_subtype
    have htrans : IsTrans reached before := ⟨fun _ _ _ hba hcb => hcb.trans hba⟩
    have hirrefl : Std.Irrefl before := ⟨fun a ha => hend ⟨a.1, a.2.2, ha⟩⟩
    exact Finite.wellFounded_of_trans_of_irrefl before
  have hacc (a : reached) : Acc (flip (Refers posting)) a.1 := by
    induction a using hwf.induction with
    | h a ih =>
      refine .intro a.1 fun y hay => ?_
      have hay : Refers posting a.1 y := hay
      exact ih ⟨y, (hwithin a.1 a.2.1).2 y hay, a.2.2.tail hay⟩ (.single hay)
  exact hacc ⟨x, hx, .refl⟩

/-- From a site that reaches a cycle, draws that depend on the site alone lead on for ever. -/
theorem exists_draws (posting : Site → Posting) : ∃ (pick : Site → Nat) (next : Site → Site),
    ∀ x, Endless posting x → Refers posting x (next x) ∧ Endless posting (next x) ∧
      ∃ url, LdapUrl.parse (((posting x).result.urls[pick x % (posting x).result.urls.length]?).getD
        "") = .ok url ∧ url.site = next x := by
  have hstep (x : Site) : ∃ draw y, Endless posting x → Refers posting x y ∧ Endless posting y ∧
      ∃ url, LdapUrl.parse (((posting x).result.urls[draw % (posting x).result.urls.length]?).getD
        "") = .ok url ∧ url.site = y := by
    by_cases h : Endless posting x
    · obtain ⟨y, hxy, hy⟩ := h.exists_refers
      obtain ⟨-, text, htext, url, hparse, hsite⟩ := id hxy
      obtain ⟨i, hi, rfl⟩ := List.getElem_of_mem htext
      refine ⟨i, y, fun _ => ⟨hxy, hy, url, ?_, hsite⟩⟩
      rw [Nat.mod_eq_of_lt hi, List.getElem?_eq_getElem hi]
      exact hparse
    · exact ⟨0, x, fun h' => absurd h' h⟩
  choose pick next hnext using hstep
  exact ⟨pick, next, hnext⟩

end

/-! ## One pass -/

/-- Every entry gives an object, and the handler always wants more. -/
structure Consumer.TakesAll {O : Type} (k : Consumer O) : Prop where
  objects : ∀ e, ∃ x, k.toObject e = .ok x
  more : ∀ l, k.wantsMore l = true

/-- Some entry was the last one that was wanted. -/
def PassEnd.IsCut : PassEnd → Prop
  | .stopped | .unmapped _ => True
  | _ => False

namespace Search

section
variable {N O : Type} {s : Search N O} {k : Contacts N} {sites : Set Site}
  {posting : Site → Posting} {x : Site} {base : Dn} {request : SearchRequest}
  {failures : UInt32} {conn : Connection} {w : World N}
  (ht : s.manager.transport.Serves k sites posting)
include ht

/-- A cursor is read to its end, unless some entry is the last one that is wanted. -/
theorem attains_stream {c : CursorId} {l : List Response} (h : k.reading w.net c x l)
    (p : Progress O) : Searching.Attains (s.stream c) p w fun e w' =>
      e = .exhausted ∧ k.read w'.net c x ∨
        ¬ s.consumer.TakesAll ∧ ∃ e', e = .cut e' ∧ e'.IsCut := by
  induction l generalizing p w with
  | nil =>
    obtain ⟨ha, hread⟩ := ht.last h
    have hstep : (liftM (s.manager.transport.advance c) : Searching N O _) p w =
      (((s.manager.transport.next c w.net).1, p), (s.manager.transport.advance c w).2) := rfl
    rw [ha] at hstep
    exact .succ (.step hstep (.pure (.inl ⟨rfl, hread⟩)))
  | cons r l ih =>
    obtain ⟨ha, hreading⟩ := ht.next h
    have hstep : (liftM (s.manager.transport.advance c) : Searching N O _) p w =
      (((s.manager.transport.next c w.net).1, p), (s.manager.transport.advance c w).2) := rfl
    rw [ha] at hstep
    cases r with
    | reference urls => exact .succ (.step hstep (ih hreading p))
    | intermediate => exact .succ (.step hstep (ih hreading p))
    | entry e =>
      refine .succ (.step hstep (.step rfl ?_))
      cases hx : s.consumer.toObject e with
      | error err =>
        have hcut : ¬ s.consumer.TakesAll := by
          intro hall
          obtain ⟨y, hy⟩ := hall.objects e
          rw [hx] at hy
          cases hy
        exact .step rfl (.pure (.inr ⟨hcut, .unmapped err, rfl, trivial⟩))
      | ok y =>
        refine .step rfl ?_
        cases hm : s.consumer.wantsMore (p.counting.handing y).handed with
        | true => exact ih hreading _
        | false =>
          have hcut : ¬ s.consumer.TakesAll := by
            intro hall
            rw [hall.more] at hm
            cases hm
          exact .step rfl (.pure (.inr ⟨hcut, .stopped, rfl, trivial⟩))

variable (request) in
/-- Unless an entry is the last one that is wanted, a pass ends with the result of its server. -/
theorem attains_pass {session : SessionId} (h : k.opened w.net session x) (p : Progress O) :
    Searching.Attains (s.pass request session) p w fun e _ =>
      e = .ended (some (posting x).result) ∨ ¬ s.consumer.TakesAll ∧ e.IsCut := by
  obtain ⟨c, ha, hreading⟩ := ht.search h request
  have hstep : (liftM (s.manager.transport.start session request) : Searching N O _) p w =
    (((s.manager.transport.search session request w.net).1, p),
      (s.manager.transport.start session request w).2) := rfl
  rw [ha] at hstep
  obtain ⟨e, p', w', hstream, he⟩ :=
    attains_stream ht (w := (s.manager.transport.start session request w).2) hreading p
  refine .step hstep (.bind hstream ?_)
  rcases he with ⟨rfl, hread⟩ | ⟨hcut, e', rfl, he'⟩
  · have hending : (s.ending c w').1 = some (posting x).result := ht.finish hread
    exact .step rfl (.pure (.inl (congrArg PassEnd.ended hending)))
  · exact .pure (.inr ⟨hcut, he'⟩)

theorem idle_of_pass {session : SessionId} {e : PassEnd} {p p' : Progress O} {w' : World N}
    (h : Searching.Comes (s.pass request session) p w e p' w') : w.Idle k w' := by
  obtain ⟨fuel, hpass⟩ := h.exists_eq
  have htalk : Act.Follows s.manager.Talk (s.pass request session fuel p) :=
    s.follows_pass request session fuel p
  have hw : ReflTransGen s.manager.Talk w w' := by
    have hw := htalk w
    rwa [hpass] at hw
  clear hpass h
  induction hw with
  | refl => exact .refl w
  | tail _ hlast ih => exact ih.trans (hlast.idle ht)

/-! ## What follows a pass -/

omit ht in
variable (base failures) in
theorem turns_of_comes (hmax : s.options.retry.maxAttempts = none) {p q q' : Progress O}
    {v w' : World N} {e : PassEnd} {t : Turn}
    (hpass : Searching.Comes (s.pass request conn.session) p.beginning w e q v)
    (hafter : s.after base failures conn (s.judge e (v.registry.server conn.server).record)
      (q.noting s.options e) (World.record (.passed e) v).2 = ((t, q'), w')) :
    ∃ o, s.Turns base request failures conn p w ⟨e, o, t⟩ q' w' := by
  have hallowed : s.options.retry.allowsAttempt (p.attempts + 1) = true := by
    rw [RetryPolicy.allowsAttempt, hmax]
  exact ⟨_, hallowed, q, v, _, _, hpass, rfl, hafter⟩

omit ht in
theorem judge_of_referral (hs : s.options.referralStrategy = .follow) {r : LdapResult}
    (hr : r.code = ResultCode.referral) (record : ServerRecord) :
    s.judge (.ended (some r)) record = .ok (.followReferral ⟨r.urls⟩) := by
  rw [judge, onResult, hs, if_pos ⟨hr, by decide⟩, if_neg (by decide)]

omit ht in
theorem judge_of_success {r : LdapResult} (hr : r.code = ResultCode.success)
    (record : ServerRecord) : s.judge (.ended (some r)) record = .ok .done := by
  have hne : ¬ (r.code = ResultCode.referral ∧ s.options.referralStrategy ≠ .throw) := by
    rintro ⟨href, -⟩
    rw [hr] at href
    exact absurd href (by decide)
  rw [judge, onResult, if_neg hne, if_pos hr]

section
variable (hmax : s.options.retry.maxAttempts = none) (hs : s.options.referralStrategy = .follow)
include hmax hs

variable (base request failures) in
/-- A pass ends the search, or its referral leads to the next one. -/
theorem exists_turns_at (hwithin : AnswersWithin sites posting) (h : Manager.At k sites x conn w)
    (p : Progress O) : ∃ r p' w', s.Turns base request failures conn p w r p' w' ∧
      ((∃ answer, r.turn = .finished answer) ∨
        ∃ y conn', r.turn = .again failures conn' ∧ Refers posting x y ∧
          Manager.At k sites y conn' w') := by
  obtain ⟨hresult, hurls⟩ := hwithin x h.mem
  obtain ⟨e, q, v, hpass, he⟩ := attains_pass request ht h.opened p.beginning
  have hfinished {answer : Except ClientError Unit} {q' : Progress O} {w' : World N}
      (hafter : s.after base failures conn (s.judge e (v.registry.server conn.server).record)
        (q.noting s.options e) (World.record (.passed e) v).2 = ((.finished answer, q'), w')) :
      ∃ r p' w', s.Turns base request failures conn p w r p' w' ∧
        ((∃ answer, r.turn = .finished answer) ∨
          ∃ y conn', r.turn = .again failures conn' ∧ Refers posting x y ∧
            Manager.At k sites y conn' w') := by
    obtain ⟨o, hturns⟩ := turns_of_comes base failures hmax hpass hafter
    exact ⟨_, _, _, hturns, .inl ⟨answer, rfl⟩⟩
  rcases he with rfl | ⟨-, hcut⟩
  · rcases hresult with hcode | hcode
    · rw [judge_of_success hcode] at hfinished
      exact hfinished rfl
    · have hidle : w.Idle k (World.record (.passed (.ended (some (posting x).result))) v).2 :=
        (idle_of_pass ht hpass).trans (World.idle_record _ v)
      have hreferral := judge_of_referral hs hcode (v.registry.server conn.server).record
      rcases connectReferral_cases ht (h.among.idle hidle) hcode hurls with
        ⟨err, w', hconn⟩ | ⟨y, conn', w', hrefers, hconn, hat⟩
      · rw [hreferral, after_referral, hconn] at hfinished
        exact hfinished rfl
      · obtain ⟨o, hturns⟩ := turns_of_comes base failures hmax hpass
          (by rw [hreferral, after_referral, hconn])
        exact ⟨_, _, _, hturns, .inr ⟨y, conn', rfl, hrefers, hat⟩⟩
  · cases e with
    | stopped => exact hfinished rfl
    | unmapped err => exact hfinished rfl
    | ended result => exact absurd hcut id
    | failed f => exact absurd hcut id

variable (base request failures) in
/-- The draw that comes next decides where the search goes on. -/
theorem exists_turns_of_drawn (hall : s.consumer.TakesAll) (h : Manager.At k sites x conn w)
    (hcode : (posting x).result.code = ResultCode.referral) {url : LdapUrl}
    (hurl : LdapUrl.parse (((posting x).result.urls[w.chance w.drawn %
      (posting x).result.urls.length]?).getD "") = .ok url)
    (hne : (posting x).result.urls ≠ []) (hsite : url.site ∈ sites) (p : Progress O) :
    ∃ r conn' p' w', s.Turns base request failures conn p w r p' w' ∧
      r.turn = .again failures conn' ∧ Manager.At k sites url.site conn' w' ∧
      w'.chance = w.chance ∧ w'.drawn = w.drawn + 1 := by
  obtain ⟨e, q, v, hpass, he⟩ := attains_pass request ht h.opened p.beginning
  rcases he with rfl | ⟨hcut, -⟩
  · have hidle : w.Idle k (World.record (.passed (.ended (some (posting x).result))) v).2 :=
      (idle_of_pass ht hpass).trans (World.idle_record _ v)
    have hempty : (Referral.mk (posting x).result.urls).isEmpty = false := by
      simpa [Referral.isEmpty] using hne
    rw [← hidle.chance, ← hidle.drawn] at hurl
    obtain ⟨conn', w', hconn, hat, hchance, hdrawn⟩ :=
      connectReferral_of_drawn ht (h.among.idle hidle) hempty hurl hsite
    have hreferral := judge_of_referral hs hcode (v.registry.server conn.server).record
    obtain ⟨o, hturns⟩ := turns_of_comes base failures hmax hpass
      (by rw [hreferral, after_referral, hconn])
    refine ⟨_, conn', _, w', hturns, rfl, hat, ?_, ?_⟩
    · rw [hchance, hidle.chance]
    · rw [hdrawn, hidle.drawn]
  · exact absurd hall hcut

/-! ## All passes -/

/-- Where finitely many referrals can be followed there is a last pass. -/
theorem exists_course_at (hwithin : AnswersWithin sites posting)
    (hacc : Acc (flip (Refers posting)) x) (h : Manager.At k sites x conn w)
    (failures : UInt32) (p : Progress O) : ∃ rounds answer p' w',
      s.Course base request failures conn p w rounds answer p' w' := by
  induction hacc generalizing conn p w with
  | intro x _ ih =>
    obtain ⟨r, p₁, w₁, hturns, hnext⟩ :=
      exists_turns_at base request failures ht hmax hs hwithin h p
    rcases hnext with ⟨answer, hr⟩ | ⟨y, conn', hr, hrefers, hat⟩
    · exact ⟨_, answer, p₁, w₁, .finished hturns hr⟩
    · obtain ⟨rounds, answer, p', w', hcourse⟩ := ih y hrefers hat p₁
      exact ⟨_, answer, p', w', .again hturns hr hcourse⟩

/-- Where every draw leads to a site from which the next one leads on, every bound is reached. -/
theorem passes_eq_none (hall : s.consumer.TakesAll) (hwithin : AnswersWithin sites posting)
    {pick : Site → Nat} {next : Site → Site}
    (hnext : ∀ x, Endless posting x → Refers posting x (next x) ∧ Endless posting (next x) ∧
      ∃ url, LdapUrl.parse (((posting x).result.urls[pick x % (posting x).result.urls.length]?).getD
        "") = .ok url ∧ url.site = next x)
    (hx : Endless posting x) (h : Manager.At k sites x conn w)
    (hdraws : ∀ j, w.chance (w.drawn + j) = pick (next^[j] x)) (fuel : Nat) (p : Progress O) :
    (s.passes base request fuel failures conn p w).1.1 = none := by
  induction fuel generalizing x conn p w with
  | zero => rfl
  | succ fuel ih =>
    obtain ⟨hrefers, hendless, url, hurl, hsite⟩ := hnext x hx
    obtain ⟨hcode, text, htext, -⟩ := id hrefers
    have hdraw : w.chance w.drawn = pick x := hdraws 0
    have hmem : url.site ∈ sites := hsite ▸ (hwithin x h.mem).2 _ hrefers
    rw [← hdraw] at hurl
    obtain ⟨r, conn', p', w', hturns, hr, hat, hchance, hdrawn⟩ :=
      exists_turns_of_drawn base request failures ht hmax hs hall h hcode hurl
        (List.ne_nil_of_mem htext) hmem p
    rw [hsite] at hat
    have hdraws' (j : Nat) : w'.chance (w'.drawn + j) = pick (next^[j] (next x)) := by
      rw [hchance, hdrawn, Nat.add_assoc, Nat.add_comm 1 j, hdraws (j + 1),
        Function.iterate_succ_apply]
    rw [passes]
    rcases hturns.comes.none_or_eq (s.within_turn base request failures conn) fuel with
      hnone | heq
    · -- the bound on responses is reached
      rcases hturn : s.turn base request fuel failures conn p w with ⟨⟨o, q⟩, v⟩
      rw [hturn] at hnone
      obtain rfl : o = none := hnone
      rw [Searching.bind_of_eq hturn]
      rfl
    · rw [Searching.bind_of_eq heq, hr]
      exact ih hendless hat hdraws' p'

end

/-! ## Whole searches -/

omit ht in
variable (s k sites base w) in
/-- where a search may begin: at the site of its connection, or at that of a server which may be
drawn for its base name -/
inductive Begins : Site → Prop
  | given {conn : Connection} {x : Site} (h : s.connection = some conn)
      (hx : k.opened w.net conn.session x) (hmem : x ∈ sites) : Begins x
  | routed {i : Nat} (h : s.connection = none) (hi : i ∈ Manager.answers base w) :
      Begins (w.registry.server i).record.site

section
variable (hw : Manager.Among k sites w)
include hw

/-- Whatever is drawn, the first pass begins where the search may begin. -/
theorem exists_start (hgiven : ∀ conn, s.connection = some conn →
      ∃ x ∈ sites, k.opened w.net conn.session x) (chance : Nat → Nat) :
    ∃ x conn v, s.Begins k sites base w x ∧
      s.firstConnection base { w with chance } = (.ok conn, v) ∧ Manager.At k sites x conn v := by
  have hw' : Manager.Among k sites { w with chance } := ⟨hw.sites, hw.sessions⟩
  cases hc : s.connection with
  | some conn =>
    obtain ⟨x, hmem, hx⟩ := hgiven conn hc
    refine ⟨x, conn, { w with chance }, .given hc hx hmem, ?_, hw', hx, hmem⟩
    rw [firstConnection, hc]
    rfl
  | none =>
    obtain ⟨conn, v, hconn, hat, -⟩ := hw'.connection ht base
    refine ⟨_, conn, v, .routed hc ⟨chance, rfl⟩, ?_, hat⟩
    rw [firstConnection, hc]
    exact hconn

/-- Wherever a search may begin, it does so if chance will have it, whatever is drawn then. -/
theorem exists_start_of_begins (hx : s.Begins k sites base w x) (draws : Nat → Nat) :
    ∃ chance conn v, s.firstConnection base { w with chance } = (.ok conn, v) ∧
      Manager.At k sites x conn v ∧ ∀ j, v.chance (v.drawn + j) = draws j := by
  cases hx with
  | @given conn x hc hx hmem =>
    let chance (n : Nat) : Nat := draws (n - w.drawn)
    have hw' : Manager.Among k sites { w with chance } := ⟨hw.sites, hw.sessions⟩
    refine ⟨chance, conn, { w with chance }, ?_, ⟨hw', hx, hmem⟩, ?_⟩
    · rw [firstConnection, hc]
      rfl
    · intro j
      exact congrArg draws (Nat.add_sub_cancel_left w.drawn j)
  | @routed i hc hi =>
    obtain ⟨draw, rfl⟩ := Manager.mem_answers_iff.mp hi
    let chance (n : Nat) : Nat := if n = w.drawn then draw else draws (n - (w.drawn + 1))
    have hw' : Manager.Among k sites { w with chance } := ⟨hw.sites, hw.sessions⟩
    have hfirst : chance w.drawn = draw := if_pos rfl
    obtain ⟨conn, v, hconn, hat, hchance, hdrawn⟩ := hw'.connection ht base
    have hsite : (w.registry.server (w.registry.route base (chance w.drawn))).record.site =
      (w.registry.server (w.registry.route base draw)).record.site := by rw [hfirst]
    refine ⟨chance, conn, v, ?_, hsite ▸ hat, ?_⟩
    · rw [firstConnection, hc]
      exact hconn
    · intro j
      have hne : w.drawn + 1 + j ≠ w.drawn := by omega
      have hsub : w.drawn + 1 + j - (w.drawn + 1) = j := by omega
      rw [hchance, hdrawn]
      show (if w.drawn + 1 + j = w.drawn then draw else draws (w.drawn + 1 + j - (w.drawn + 1))) = _
      rw [if_neg hne, hsub]

variable (hmax : s.options.retry.maxAttempts = none) (hs : s.options.referralStrategy = .follow)
include hmax hs

theorem halts_of_not_endless (hfin : sites.Finite) (hwithin : AnswersWithin sites posting)
    (hgiven : ∀ conn, s.connection = some conn → ∃ x ∈ sites, k.opened w.net conn.session x)
    (hend : ∀ x, s.Begins k sites base w x → ¬ Endless posting x) (filter : String)
    (scope : Scope) (attributes : List String) (p : Progress O) (chance : Nat → Nat) :
    Searching.Halts (s.run base filter scope attributes) p { w with chance } := by
  obtain ⟨x, conn, v, hx, hfirst, hat⟩ := exists_start ht hw hgiven chance
  have hacc := acc_of_not_endless hfin hwithin hat.mem (hend x hx)
  obtain ⟨rounds, answer, p', w', hcourse⟩ :=
    exists_course_at ht hmax hs hwithin hacc hat 0 p.restarted
  have hruns : s.Runs base (s.options.request base filter scope attributes) p { w with chance }
    rounds answer p' w' := .connected hfirst hcourse
  exact ⟨answer, p', w', hruns.comes⟩

theorem exists_chance_of_endless (hall : s.consumer.TakesAll)
    (hwithin : AnswersWithin sites posting) (hx : s.Begins k sites base w x)
    (hend : Endless posting x) (filter : String) (scope : Scope) (attributes : List String)
    (p : Progress O) : ∃ chance, ∀ fuel,
      (s.run base filter scope attributes fuel p { w with chance }).1.1 = none := by
  obtain ⟨pick, next, hnext⟩ := exists_draws posting
  obtain ⟨chance, conn, v, hfirst, hat, hdraws⟩ :=
    exists_start_of_begins ht hw hx fun j => pick (next^[j] x)
  refine ⟨chance, fun fuel => ?_⟩
  rw [run, Searching.bind_of_eq Searching.modify_apply,
    Searching.bind_of_eq (Searching.lift_apply hfirst)]
  exact passes_eq_none ht hmax hs hall hwithin hnext hend hat hdraws fuel p.restarted

/-- **Among finitely many servers that answer every search alike, a search without a bound on
attempts ends whatever is drawn, unless a cycle of referrals can be reached; and if one can, some
draws keep a search in it for ever that wants all entries.** -/
theorem halts_unless_endless (hfin : sites.Finite) (hwithin : AnswersWithin sites posting)
    (hgiven : ∀ conn, s.connection = some conn → ∃ x ∈ sites, k.opened w.net conn.session x)
    (filter : String) (scope : Scope) (attributes : List String) (p : Progress O) :
    ((∀ x, s.Begins k sites base w x → ¬ Endless posting x) → ∀ chance,
        Searching.Halts (s.run base filter scope attributes) p { w with chance }) ∧
      (s.consumer.TakesAll → (∃ x, s.Begins k sites base w x ∧ Endless posting x) →
        ∃ chance, ∀ fuel,
          (s.run base filter scope attributes fuel p { w with chance }).1.1 = none) := by
  constructor
  · intro hend
    exact halts_of_not_endless ht hw hmax hs hfin hwithin hgiven hend filter scope attributes p
  · rintro hall ⟨x, hx, hend⟩
    exact exists_chance_of_endless ht hw hmax hs hall hwithin hx hend filter scope attributes p

end

end

end Search

namespace Scripted

/-- the site of the default server -/
def homeSite : Site := ⟨"ldap.example.com", 389⟩

def otherSite : Site := ⟨"r1", 389⟩

/-- the client at the servers with these answers -/
def steadyClient (posting : Site → Posting) : Manager Steady where
  config := client.config
  schema := client.schema
  classifier := client.classifier
  transport := steady posting

/-- a search with the default options that takes whatever it is given -/
def eagerly (posting : Site → Posting) : Search Steady Entry where
  manager := steadyClient posting
  options := {}
  classifier := .standard
  consumer := ⟨.ok, fun _ => true⟩

def rested : World Steady := { net := {}, registry := home, chance := fun _ => 0 }

theorem takesAll_eagerly (posting : Site → Posting) : (eagerly posting).consumer.TakesAll :=
  ⟨fun e => ⟨e, rfl⟩, fun _ => rfl⟩

theorem among_rested {sites : Set Site} (h : homeSite ∈ sites) :
    Manager.Among Steady.contacts sites rested := by
  have hzero {i : Nat} (hi : i < rested.registry.size) : i = 0 := Nat.lt_one_iff.mp hi
  constructor
  · intro i hi
    obtain rfl := hzero hi
    have hsite : (rested.registry.server 0).record.site = homeSite := by decide
    rw [hsite]
    exact h
  · intro i hi s hs
    obtain rfl := hzero hi
    cases hs

/-- The search begins at the default server. -/
theorem begins_rested (posting : Site → Posting) (sites : Set Site) :
    (eagerly posting).Begins Steady.contacts sites Dn.root rested homeSite := by
  have hsite : (rested.registry.server 0).record.site = homeSite := by decide
  have hanswers : Manager.answers Dn.root rested = {0} := Manager.answers_of_not_isQualified rfl
  have hzero : 0 ∈ Manager.answers Dn.root rested := hanswers ▸ rfl
  rw [← hsite]
  exact .routed rfl hzero

def homeUrl : LdapUrl := ⟨"ldap://ldap.example.com/", false, "ldap.example.com", 389, ""⟩

def otherUrl : LdapUrl := ⟨"ldap://r1/", false, "r1", 389, ""⟩

theorem parse_homeUrl : LdapUrl.parse "ldap://ldap.example.com/" = .ok homeUrl := by
  decide

theorem parse_otherUrl : LdapUrl.parse "ldap://r1/" = .ok otherUrl := by decide

theorem site_homeUrl : homeUrl.site = homeSite := by decide

theorem site_otherUrl : otherUrl.site = otherSite := by decide

/-- The default server refers to another one, which has an answer. -/
def onward (x : Site) : Posting :=
  if x = homeSite then ⟨[], { code := ResultCode.referral, urls := ["ldap://r1/"] }⟩
  else ⟨[.intermediate], { code := ResultCode.success }⟩

theorem refers_onward {x y : Site} (h : Refers onward x y) : x = homeSite ∧ y = otherSite := by
  obtain ⟨hcode, text, htext, url, hparse, rfl⟩ := h
  by_cases hx : x = homeSite
  · rw [onward, if_pos hx] at htext
    obtain rfl := List.mem_singleton.mp htext
    obtain rfl := Except.ok.inj (parse_otherUrl.symm.trans hparse)
    exact ⟨hx, site_otherUrl⟩
  · rw [onward, if_neg hx] at hcode
    cases hcode

theorem not_endless_onward (x : Site) : ¬ Endless onward x := by
  rintro ⟨y, -, hcycle⟩
  obtain ⟨z, hyz, hzy⟩ := TransGen.head'_iff.mp hcycle
  obtain ⟨hy, hz⟩ := refers_onward hyz
  -- nobody refers to the default server
  rcases hzy.cases_tail with hback | ⟨_, -, hback⟩
  · have hsame : homeSite = otherSite := hy.symm.trans (hback.trans hz)
    exact absurd hsame (by decide)
  · have hsame : homeSite = otherSite := hy.symm.trans (refers_onward hback).2
    exact absurd hsame (by decide)

theorem answersWithin_onward : AnswersWithin {homeSite, otherSite} onward := by
  intro x _
  refine ⟨?_, fun y hxy => .inr (refers_onward hxy).2⟩
  by_cases hx : x = homeSite
  · rw [onward, if_pos hx]
    exact .inr rfl
  · rw [onward, if_neg hx]
    exact .inl rfl

theorem halts_unless_endless_onward :
    (eagerly onward).manager.transport.Serves Steady.contacts {homeSite, otherSite} onward ∧
      Manager.Among Steady.contacts {homeSite, otherSite} rested ∧
      (eagerly onward).options.retry.maxAttempts = none ∧
      (eagerly onward).options.referralStrategy = .follow ∧
      ({homeSite, otherSite} : Set Site).Finite ∧ AnswersWithin {homeSite, otherSite} onward ∧
      (eagerly onward).connection = none ∧
      (∀ x, (eagerly onward).Begins Steady.contacts {homeSite, otherSite} Dn.root rested x →
        ¬ Endless onward x) ∧
      ∀ chance, Searching.Halts ((eagerly onward).run Dn.root "(objectClass=*)" .subtree []) {}
        { rested with chance } := by
  have hserves := serves_steady {homeSite, otherSite} onward
  have hamong : Manager.Among Steady.contacts {homeSite, otherSite} rested :=
    among_rested (.inl rfl)
  have hfin : ({homeSite, otherSite} : Set Site).Finite := Set.toFinite _
  have hgiven (conn : Connection) (h : (eagerly onward).connection = some conn) :
      ∃ x ∈ ({homeSite, otherSite} : Set Site),
        Steady.contacts.opened rested.net conn.session x := by cases h
  have hend (x : Site)
      (_ : (eagerly onward).Begins Steady.contacts {homeSite, otherSite} Dn.root rested x) :
      ¬ Endless onward x := not_endless_onward x
  refine ⟨hserves, hamong, rfl, rfl, hfin, answersWithin_onward, rfl, hend, ?_⟩
  exact (Search.halts_unless_endless (s := eagerly onward) hserves hamong rfl rfl hfin
    answersWithin_onward hgiven "(objectClass=*)" .subtree [] {}).1 hend

/-- The default server refers to itself. -/
def circular (_ : Site) : Posting :=
  ⟨[], { code := ResultCode.referral, urls := ["ldap://ldap.example.com/"] }⟩

theorem refers_circular_iff {x y : Site} : Refers circular x y ↔ y = homeSite := by
  constructor
  · rintro ⟨-, text, htext, url, hparse, rfl⟩
    obtain rfl := List.mem_singleton.mp htext
    obtain rfl := Except.ok.inj (parse_homeUrl.symm.trans hparse)
    exact site_homeUrl
  · rintro rfl
    exact ⟨rfl, _, List.mem_singleton_self _, homeUrl, parse_homeUrl, site_homeUrl⟩

/-- A search with the default options need not come to an end, though no server fails. -/
theorem referral_cycle_unending : ¬ ∀ (s : Search Steady Entry) (k : Contacts Steady)
    (sites : Set Site) (posting : Site → Posting) (w : World Steady),
    s.manager.transport.Serves k sites posting → sites.Finite → AnswersWithin sites posting →
    Manager.Among k sites w → s.connection = none → s.options = {} →
    ∀ (base : Dn) (filter : String) (scope : Scope) (attributes : List String)
      (p : Progress Entry) (chance : Nat → Nat),
      Searching.Halts (s.run base filter scope attributes) p { w with chance } := by
  intro h
  have hserves := serves_steady {homeSite} circular
  have hamong : Manager.Among Steady.contacts {homeSite} rested := among_rested rfl
  have hwithin : AnswersWithin {homeSite} circular :=
    fun x _ => ⟨.inr rfl, fun y hxy => refers_circular_iff.mp hxy⟩
  have hself : Refers circular homeSite homeSite := refers_circular_iff.mpr rfl
  have hendless : Endless circular homeSite := ⟨homeSite, .refl, .single hself⟩
  obtain ⟨chance, hnone⟩ := Search.exists_chance_of_endless (s := eagerly circular) hserves hamong
    rfl rfl (takesAll_eagerly circular) hwithin (begins_rested circular {homeSite}) hendless
    "(objectClass=*)" .subtree [] {}
  obtain ⟨answer, p', w', hcomes⟩ := h (eagerly circular) Steady.contacts {homeSite} circular rested
    hserves (Set.finite_singleton _) hwithin hamong rfl rfl Dn.root "(objectClass=*)" .subtree [] {}
    chance
  obtain ⟨fuel, hfuel⟩ := hcomes.exists_eq
  have hanswer := hnone fuel
  rw [hfuel] at hanswer
  cases hanswer

end Scripted

end DirectoryClient
