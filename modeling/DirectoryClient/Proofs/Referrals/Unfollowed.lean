import DirectoryClient.Proofs.Referrals.Urls
import DirectoryClient.Proofs.Search.Stages

/-!
# Searches that follow no referrals

A search that ignores referrals, or takes them for errors, reads none of the URLs that servers send.

* `Manager.on`, `Search.on`   the same on another network;
* `upToUrls_connection`       what connects the server of a name, on networks that differ in URLs;
* `upToUrls_pass`             a pass ends in the same way up to URLs, by induction on the bound;
* `judge_upToUrls`            the same is made of its end;
* `upToUrls_turn`, `upToUrls_passes`   the same follows, pass by pass;
* `Search.AlikeUpToUrls`      what two such searches leave (`upToUrls_run`).
-/

namespace DirectoryClient

section
variable {N N' O : Type} {R : N → N' → Prop}

/-- the same manager on another network -/
def Manager.on (m : Manager N) (t : Transport N') : Manager N' :=
  ⟨m.config, m.schema, m.classifier, t⟩

/-- the same search on another network -/
def Search.on (s : Search N O) (t : Transport N') : Search N' O :=
  ⟨s.manager.on t, s.options, s.classifier, s.consumer, s.connection⟩

theorem Manager.bindError_on (m : Manager N) (t : Transport N') :
    (m.on t).bindError = m.bindError := rfl

theorem Search.consumer_on (s : Search N O) (t : Transport N') :
    (s.on t).consumer = s.consumer := rfl

theorem Search.connection_on (s : Search N O) (t : Transport N') :
    (s.on t).connection = s.connection := rfl

/-- What a search leaves in two worlds that differ in URLs: the same answer, the same progress but
for the referral that is remembered, and worlds that differ in URLs alone. -/
structure Search.AlikeUpToUrls (R : N → N' → Prop)
    (here : (Option (Except ClientError Unit) × Progress O) × World N)
    (there : (Option (Except ClientError Unit) × Progress O) × World N') : Prop where
  answer : here.1.1 = there.1.1
  progress : here.1.2.UpToUrls there.1.2
  world : here.2.UpToUrls R there.2

namespace Manager

/-! ## Connecting a server -/

theorem upToUrls_server (i : Nat) :
    Act.UpToUrls R Eq (server i : Act N Server) (server i : Act N' Server) :=
  .ask fun _ _ hw => by rw [hw.registry]

theorem upToUrls_store (i : Nat) (s : Option SessionId) :
    Act.UpToUrls R Eq (store i s : Act N Unit) (store i s : Act N' Unit) :=
  fun _ _ hw => ⟨rfl, { hw with registry := congrArg (·.setSession i s) hw.registry }⟩

theorem upToUrls_select (d : Dn) :
    Act.UpToUrls R Eq (select d : Act N Nat) (select d : Act N' Nat) := by
  have hregistry : Act.UpToUrls R Eq (registry : Act N Registry) (registry : Act N' Registry) :=
    .ask fun _ _ hw => hw.registry
  refine Act.UpToUrls.draw.next fun draw => hregistry.next fun r => ?_
  exact (Act.UpToUrls.record (.same _)).next fun _ => .pure rfl

variable {m : Manager N} {t' : Transport N'} (ht : m.transport.AgreesUpToUrls R t')
include ht

theorem upToUrls_liveSession (i : Nat) :
    Act.UpToUrls R Eq (m.liveSession i) ((m.on t').liveSession i) := by
  refine .ask fun w w' hw => ?_
  have hlive : (fun s => m.transport.isConnected s w.net) = fun s => t'.isConnected s w'.net :=
    funext fun s => ht.isConnected hw.net s
  rw [hlive, hw.registry]
  rfl

theorem upToUrls_openSession (i : Nat) (r : ServerRecord) :
    Act.UpToUrls R Eq (m.openSession i r) ((m.on t').openSession i r) := by
  refine (ht.dial i (m.settings r)).next fun answer => ?_
  rcases answer with f | _ | s
  · exact .pure rfl
  · exact .pure rfl
  · refine (ht.login s r.bindRequest).next fun bound => ?_
    rw [bindError_on]
    cases m.bindError r bound with
    | none => exact (upToUrls_store i (some s)).next fun _ => .pure rfl
    | some e => exact (ht.hangUp s).next fun _ => .pure rfl

theorem upToUrls_connectServer (i : Nat) :
    Act.UpToUrls R Eq (m.connectServer i) ((m.on t').connectServer i) := by
  refine (upToUrls_liveSession ht i).next fun session => ?_
  cases session with
  | some s => exact .pure rfl
  | none =>
    refine (upToUrls_store i none).next fun _ => (upToUrls_server i).next fun x => ?_
    exact upToUrls_openSession ht i x.record

theorem upToUrls_connection (d : Dn) :
    Act.UpToUrls R Eq (m.connection d) ((m.on t').connection d) :=
  (upToUrls_select d).next fun i => (upToUrls_connectServer ht i).next fun _ => .pure rfl

end Manager

namespace Search

variable {s : Search N O} {t' : Transport N'} (ht : s.manager.transport.AgreesUpToUrls R t')

/-! ## One pass -/

theorem upToUrls_hand (x : O) : Searching.UpToUrls R Eq (s.hand x) ((s.on t').hand x) := by
  refine (Searching.UpToUrls.modify _).next fun _ => Searching.UpToUrls.get.next fun p => ?_
  exact (Searching.UpToUrls.lift (.record (.same _))).next fun _ => .pure rfl

include ht

theorem upToUrls_stream (c : CursorId) (fuel : Nat) :
    Searching.UpToUrls R (Option.Rel StreamEnd.UpToUrls) (s.stream c fuel)
      ((s.on t').stream c fuel) := by
  induction fuel with
  | zero => exact .pure .none
  | succ fuel ih =>
    have hdiscard {e e' : PassEnd} (he : e.UpToUrls e') :
        Searching.UpToUrls R (Option.Rel StreamEnd.UpToUrls)
          (do s.manager.transport.discard c; return some (.cut e) : Searching N O _)
          (do t'.discard c; return some (.cut e') : Searching N' O _) :=
      (Searching.UpToUrls.lift (ht.discard c)).next fun _ => .pure (.some (.cut he))
    refine (Searching.UpToUrls.lift (ht.advance c)).bind fun a a' ha => ?_
    cases ha with
    | error hf => exact hdiscard (.failed hf)
    | ok hx =>
      cases hx with
      | none => exact .pure (.some .exhausted)
      | some hx =>
        -- a reference is passed over, whatever its URLs
        cases hx with
        | reference urls urls' => exact ih
        | same =>
          rename_i x
          cases x with
          | reference urls => exact ih
          | intermediate => exact ih
          | entry e =>
            refine (Searching.UpToUrls.modify _).next fun _ => ?_
            rw [consumer_on]
            cases s.consumer.toObject e with
            | error err => exact hdiscard (.same _)
            | ok x =>
              refine (upToUrls_hand x).next fun more => ?_
              cases more with
              | true => exact ih
              | false =>
                exact (Searching.UpToUrls.lift (ht.giveUp c)).next fun _ =>
                  .pure (.some (.cut (.same _)))

theorem upToUrls_ending (c : CursorId) :
    Act.UpToUrls R (Option.Rel LdapResult.UpToUrls) (s.ending c) ((s.on t').ending c) :=
  (ht.terminal c).bind fun _ _ hr => (ht.release c).next fun _ => .pure hr

theorem upToUrls_pass (request : SearchRequest) (session : SessionId) (fuel : Nat) :
    Searching.UpToUrls R (Option.Rel PassEnd.UpToUrls) (s.pass request session fuel)
      ((s.on t').pass request session fuel) := by
  refine (Searching.UpToUrls.lift (ht.start session request)).bind fun a a' ha => ?_
  cases ha with
  | error hf => exact .pure (.some (.failed hf))
  | @ok c c' hc =>
    subst hc
    refine (upToUrls_stream ht c fuel).bind fun o o' ho => ?_
    cases ho with
    | none => exact .pure .none
    | some he =>
      cases he with
      | cut he => exact .pure (.some he)
      | exhausted =>
        exact (Searching.UpToUrls.lift (upToUrls_ending ht c)).bind fun _ _ hr =>
          .pure (.some (.ended hr))

/-! ## From pass to pass -/

/-- The same is done after a pass whose end differs in URLs.  No referral may be remembered before
another pass. -/
theorem upToUrls_after (base : Dn) (failures : UInt32) (conn : Connection)
    {o : Except ClientError PassOutcome} (ho : ∀ r, o ≠ .ok (.followReferral r))
    {p p' : Progress O} (hp : p.UpToUrls p')
    (hon : ∀ x, o = .ok x → x ≠ .done → p = p' ∧ p.lastReferral = none) {w : World N}
    {w' : World N'} (hw : w.UpToUrls R w') : ∃ t q q' v v',
    s.after base failures conn o p w = ((t, q), v) ∧
    (s.on t').after base failures conn o p' w' = ((t, q'), v') ∧
    q.UpToUrls q' ∧ v.UpToUrls R v' ∧
    ∀ failures' conn', t = .again failures' conn' → q = q' ∧ q.lastReferral = none := by
  have hwait : Act.UpToUrls R Eq (s.wait (N := N) failures) ((s.on t').wait (N := N') failures) :=
    .pause _ _
  rcases o with e | (_ | _ | _ | r)
  · refine ⟨_, p, p', w, w', rfl, rfl, hp, hw, ?_⟩
    intro failures' conn' hagain
    cases hagain
  · refine ⟨_, p, p', w, w', rfl, rfl, hp, hw, ?_⟩
    intro failures' conn' hagain
    cases hagain
  · obtain ⟨rfl, hnone⟩ := hon _ rfl (by decide)
    exact ⟨_, p, p, _, _, rfl, rfl, .refl p, (hwait w w' hw).2, fun _ _ _ => ⟨rfl, hnone⟩⟩
  · obtain ⟨rfl, hnone⟩ := hon _ rfl (by decide)
    have hchain : Act.UpToUrls R Eq
        (s.manager.transport.hangUp conn.session >>= fun _ => s.wait failures >>= fun _ =>
          s.manager.connection base)
        (t'.hangUp conn.session >>= fun _ => (s.on t').wait failures >>= fun _ =>
          (s.on t').manager.connection base) :=
      (ht.hangUp conn.session).next fun _ => hwait.next fun _ => Manager.upToUrls_connection ht base
    obtain ⟨ha, hv⟩ := hchain w w' hw
    have hafter := after_reconnect (s := s) base failures conn p (v := w) rfl
    have hafter' := after_reconnect (s := s.on t') base failures conn p (v := w') rfl
    rw [hnone] at hafter hafter'
    refine ⟨_, p, p, _, _, hafter, ?_, .refl p, hv, fun _ _ _ => ⟨rfl, hnone⟩⟩
    exact hafter'.trans (congrArg (fun a => ((onwards (failures + 1) a, p), _)) ha.symm)
  · exact absurd rfl (ho r)

omit ht in
/-- What a pass adds to the progress is the same but for the referral that is remembered. -/
theorem upToUrls_noting (o : SearchOptions) {e e' : PassEnd} (h : e.UpToUrls e') (p : Progress O) :
    (p.noting o e).UpToUrls (p.noting o e') := by
  cases h with
  | same => exact .refl _
  | failed => exact .refl _
  | ended h =>
    cases h with
    | none => exact .refl _
    | some h =>
      cases h with
      | intro urls =>
        rename_i r
        simp only [Progress.noting, Progress.notingResult]
        split
        · exact .intro { p with lastReferral := some ⟨r.urls⟩ } (some ⟨urls⟩)
        · exact .refl _

section
variable (hs : s.options.referralStrategy ≠ .follow)
include hs

omit ht in
theorem judge_ne_followReferral (e : PassEnd) (r : ServerRecord) (referral : Referral) :
    s.judge e r ≠ .ok (.followReferral referral) := by
  intro h
  rcases e with _ | (_ | result) | f | err
  · cases h
  · cases h
  · simp only [judge, onResult] at h
    split at h
    · next href =>
      have hignore : s.options.referralStrategy = .ignore := by
        cases hstrategy : s.options.referralStrategy with
        | follow => exact absurd hstrategy hs
        | ignore => rfl
        | throw => exact absurd hstrategy href.2
      rw [if_pos hignore] at h
      cases h
    · split at h
      · cases h
      · split at h
        · cases h
        · split at h <;> cases h
  · simp only [judge, onFailure] at h
    split at h <;> cases h
  · cases h

omit ht in
/-- The same is made of ends of passes that differ in URLs. -/
theorem judge_upToUrls (hc : s.classifier = .standard) {e e' : PassEnd} (h : e.UpToUrls e')
    (r : ServerRecord) : s.judge e r = s.judge e' r := by
  cases h with
  | same => rfl
  | failed h =>
    cases h with
    | same => rfl
    | result h =>
      cases h with
      | intro urls =>
        rw [judge, judge, onFailure, onFailure, hc]
        rfl
  | ended h =>
    cases h with
    | none => rfl
    | some h =>
      cases h with
      | intro urls =>
        rename_i result
        rw [judge, judge, onResult, onResult, hc]
        by_cases href : result.code = ResultCode.referral ∧ s.options.referralStrategy ≠ .throw
        · have hignore : s.options.referralStrategy = .ignore := by
            cases hstrategy : s.options.referralStrategy with
            | follow => exact absurd hstrategy hs
            | ignore => rfl
            | throw => exact absurd hstrategy href.2
          rw [if_pos href, if_pos hignore, if_pos href, if_pos hignore]
        · rw [if_neg href, if_neg href]
          rfl

omit ht in
/-- Before another pass no referral is noted, so that the same is noted on both sides. -/
theorem noting_of_judge_of_unfollowed (hc : s.classifier = .standard) {e e' : PassEnd}
    (he : e.UpToUrls e') {q : Progress O} (hq : q.lastReferral = none) {r : ServerRecord}
    {x : PassOutcome} (hx : s.judge e r = .ok x) (hne : x ≠ .done) :
    q.noting s.options e = q.noting s.options e' ∧ (q.noting s.options e).lastReferral = none := by
  have hfollowed : x.followed?.or q.lastReferral = none := by
    cases x with
    | followReferral referral => exact absurd hx (judge_ne_followReferral hs e r referral)
    | _ => exact hq
  have hx' : s.judge e' r = .ok x := (judge_upToUrls hs hc he r).symm.trans hx
  have hlast := (noting_of_judge hx hne q).2.trans hfollowed
  have hlast' := (noting_of_judge hx' hne q).2.trans hfollowed
  have hnoting := upToUrls_noting s.options he q
  exact ⟨hnoting.eq_of_lastReferral (hlast.trans hlast'.symm), hlast⟩

/-! ## Turns -/

omit hs ht in
/-- A turn is a pass, the judgement of its end, and what is done after it. -/
theorem turn_eq_after {base : Dn} {request : SearchRequest} {fuel : Nat} {conn : Connection}
    {p q : Progress O} {w v : World N} {e : PassEnd}
    (ha : s.options.retry.allowsAttempt (p.attempts + 1) = true)
    (hpass : s.pass request conn.session fuel p.beginning w = ((some e, q), v))
    (failures : UInt32) {t : Turn} {q' : Progress O} {v' : World N}
    (hafter : s.after base failures conn (s.judge e (v.registry.server conn.server).record)
      (q.noting s.options e) (World.record (.passed e) v).2 = ((t, q'), v')) :
    s.turn base request fuel failures conn p w = ((some t, q'), v') := by
  have houtcome : s.outcome conn e q v =
    ((s.judge e (v.registry.server conn.server).record, q.noting s.options e),
      (World.record (.passed e) v).2) := rfl
  rw [turn, Searching.bind_of_eq Searching.get_apply, ha, if_pos rfl,
    Searching.bind_of_eq Searching.modify_apply, Searching.bind_of_eq hpass]
  show (s.outcome conn e >>= fun o => s.after base failures conn o >>= fun t => pure (some t))
    q v = _
  rw [Searching.bind_of_eq houtcome, Searching.bind_of_eq hafter]
  rfl

variable (hc : s.classifier = .standard)
include hc

/-- The same follows a pass.  Before another one nothing is remembered, on either side. -/
theorem upToUrls_turn (base : Dn) (request : SearchRequest) (fuel : Nat) (failures : UInt32)
    (conn : Connection) {p : Progress O} (hp : p.lastReferral = none) {w : World N} {w' : World N'}
    (hw : w.UpToUrls R w') : ∃ o q q' v v',
    s.turn base request fuel failures conn p w = ((o, q), v) ∧
    (s.on t').turn base request fuel failures conn p w' = ((o, q'), v') ∧
    q.UpToUrls q' ∧ v.UpToUrls R v' ∧
    ∀ failures' conn', o = some (.again failures' conn') → q = q' ∧ q.lastReferral = none := by
  cases ha : s.options.retry.allowsAttempt (p.attempts + 1) with
  | false =>
    refine ⟨_, p, p, w, w', turn_of_exhausted ha, turn_of_exhausted (s := s.on t') ha, .refl p, hw,
      ?_⟩
    intro failures' conn' hagain
    cases hagain
  | true =>
    obtain ⟨⟨hend, hprogress⟩, hv⟩ := upToUrls_pass ht request conn.session fuel p.beginning w w' hw
    have hgains := s.delivery_of_pass request conn.session fuel p.beginning
    rcases hpass : s.pass request conn.session fuel p.beginning w with ⟨⟨o, q⟩, v⟩
    rcases hpass' : (s.on t').pass request conn.session fuel p.beginning w' with ⟨⟨o', q'⟩, v'⟩
    rw [hpass, hpass'] at hend hprogress hv
    obtain rfl : q = q' := hprogress
    cases hend with
    | none =>
      refine ⟨none, q, q, v, v', turn_of_cut ha hpass, turn_of_cut (s := s.on t') ha hpass',
        .refl q, hv, ?_⟩
      intro failures' conn' hagain
      cases hagain
    | @some e e' he =>
      obtain ⟨l, -, ⟨objects, hgain, -⟩⟩ := hgains.of_eq hpass
      have hq : q.lastReferral = none := hgain.lastReferral.trans hp
      have hjudge : (s.on t').judge e' (v'.registry.server conn.server).record =
          s.judge e (v.registry.server conn.server).record := by
        rw [← hv.registry]
        exact (judge_upToUrls hs hc he _).symm
      obtain ⟨t, q₁, q₁', v₁, v₁', hafter, hafter', hq₁, hv₁, hagain⟩ := upToUrls_after ht base
        failures conn (judge_ne_followReferral hs e _) (upToUrls_noting s.options he q)
        (fun _ => noting_of_judge_of_unfollowed hs hc he hq)
        (Act.UpToUrls.record (.passed he) v v' hv).2
      rw [← hjudge] at hafter'
      refine ⟨some t, q₁, q₁', v₁, v₁', turn_eq_after ha hpass failures hafter,
        turn_eq_after (s := s.on t') ha hpass' failures hafter', hq₁, hv₁, ?_⟩
      intro failures' conn' ht
      exact hagain failures' conn' (Option.some.inj ht)

/-! ## Whole searches -/

/-- Pass by pass the same happens. -/
theorem upToUrls_passes (base : Dn) (request : SearchRequest) (fuel : Nat) (failures : UInt32)
    (conn : Connection) {p : Progress O} (hp : p.lastReferral = none) {w : World N} {w' : World N'}
    (hw : w.UpToUrls R w') :
    AlikeUpToUrls R (s.passes base request fuel failures conn p w)
      ((s.on t').passes base request fuel failures conn p w') := by
  induction fuel generalizing failures conn p w w' with
  | zero => exact ⟨rfl, .refl p, hw⟩
  | succ fuel ih =>
    obtain ⟨o, q, q', v, v', hturn, hturn', hq, hv, hagain⟩ :=
      upToUrls_turn ht hs hc base request fuel failures conn hp hw
    rw [passes, passes, Searching.bind_of_eq hturn, Searching.bind_of_eq hturn']
    rcases o with _ | answer | ⟨failures', conn'⟩
    · exact ⟨rfl, hq, hv⟩
    · exact ⟨rfl, hq, hv⟩
    · obtain ⟨rfl, hnone⟩ := hagain failures' conn' rfl
      exact ih failures' conn' hnone hv

theorem upToUrls_run (base : Dn) (filter : String) (scope : Scope) (attributes : List String)
    (fuel : Nat) (p : Progress O) {w : World N} {w' : World N'} (hw : w.UpToUrls R w') :
    AlikeUpToUrls R (s.run base filter scope attributes fuel p w)
      ((s.on t').run base filter scope attributes fuel p w') := by
  have hfirst : Act.UpToUrls R Eq (s.firstConnection base) ((s.on t').firstConnection base) := by
    have hresolve := Manager.upToUrls_connection ht base
    rw [firstConnection, firstConnection, connection_on]
    cases s.connection with
    | none => exact hresolve
    | some conn => exact .pure rfl
  obtain ⟨ha, hv⟩ := hfirst w w' hw
  rcases hconn : s.firstConnection base w with ⟨a, v⟩
  rcases hconn' : (s.on t').firstConnection base w' with ⟨a', v'⟩
  rw [hconn, hconn'] at ha hv
  obtain rfl : a = a' := ha
  rw [run, run, Searching.bind_of_eq Searching.modify_apply,
    Searching.bind_of_eq Searching.modify_apply,
    Searching.bind_of_eq (Searching.lift_apply hconn),
    Searching.bind_of_eq (Searching.lift_apply hconn')]
  cases a with
  | error err => exact ⟨rfl, .refl _, hv⟩
  | ok conn => exact upToUrls_passes ht hs hc base _ fuel 0 conn rfl hv

end

end Search

end

end DirectoryClient
