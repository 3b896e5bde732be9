import DirectoryClient.Proofs.Search.Verdict

/-!
# How the result of a search arrives

A server's result may arrive at the end of the responses or as a failure.

* `Transport.late`      the same transport, but results that came as failures come in the end;
* `Search.late`         the same search, but with such a transport;
* `pass_late`           a pass that fails with a result becomes one that ends with it;
* `SearchOptions.Decides`   the results about which the options decide;
* `outcome_late_iff`    the two passes come to the same exactly for all other results.
-/

namespace DirectoryClient

/-! ## Results that come in the end -/

namespace Transport

variable {N : Type}

/-- `a` in the place of a result that came as a failure, which is held back -/
def postponed {α : Type} (a : α) : Except Failure α × N → Except Failure α × (N × Option LdapResult)
  | (.error (.result r), n) => (.ok a, (n, some r))
  | (x, n) => (x, (n, none))

/-- a call that has nothing to do with results -/
def beside {α : Type} (f : N → α × N) (n : N × Option LdapResult) : α × (N × Option LdapResult) :=
  ((f n.1).1, ((f n.1).2, n.2))

variable (t : Transport N)

/-- The network holds the result that is still to come.  A search that failed with one begins, and
ends at once. -/
def late : Transport (N × Option LdapResult) where
  connect settings := beside (t.connect settings)
  bind session request := beside (t.bind session request)
  search session request n := postponed ⟨0⟩ (t.search session request n.1)
  isConnected session n := t.isConnected session n.1
  close session := beside (t.close session)
  next c n := if n.2.isSome then (.ok none, n) else postponed none (t.next c n.1)
  finish c n := if n.2.isSome then (n.2, n) else beside (t.finish c) n
  isDone c n := n.2.isSome || t.isDone c n.1
  abandon c := beside (t.abandon c)
  cancel c n := (t.cancel c n.1, n.2)

end Transport

/-- the same world, with no result held back -/
def World.late {N : Type} (w : World N) : World (N × Option LdapResult) :=
  { w with net := (w.net, none) }

namespace Search

variable {N O : Type} (s : Search N O)

def late : Search (N × Option LdapResult) O where
  manager := { s.manager with transport := s.manager.transport.late }
  options := s.options
  classifier := s.classifier
  consumer := s.consumer
  connection := s.connection

/-! ## One response -/

/-- the world after a call of `next` -/
def heardWorld (w : World N) (c : CursorId) (a : Except Failure (Option Response)) (net : N) :
    World N := { w with net, log := .next c a :: w.log }

/-- the world after an object was handed over -/
def handedWorld (w : World N) (more : Bool) : World N := { w with log := .handed more :: w.log }

/-- One response after which the next one is read. -/
inductive Absorbs (c : CursorId) (p : Progress O) (w : World N) : Progress O → World N → Prop
  | entry {e : Entry} {x : O} {net : N}
      (h : s.manager.transport.next c w.net = (.ok (some (.entry e)), net))
      (hx : s.consumer.toObject e = .ok x) (hm : s.consumer.wantsMore (p.handed ++ [x]) = true) :
      Absorbs c p w (p.counting.handing x)
        (handedWorld (heardWorld w c (.ok (some (.entry e))) net) true)
  | other {x : Response} {net : N} (hx : x.found? = none)
      (h : s.manager.transport.next c w.net = (.ok (some x), net)) :
      Absorbs c p w p (heardWorld w c (.ok (some x)) net)

variable {c : CursorId} {p p' q : Progress O} {w w' v : World N} {r : LdapResult}

theorem advance_of_next {a : Except Failure (Option Response)} {net : N}
    (h : s.manager.transport.next c w.net = (a, net)) (p : Progress O) :
    (liftM (s.manager.transport.advance c) : Searching N O _) p w =
      ((a, p), heardWorld w c a net) := by
  show (((s.manager.transport.advance c w).1, p), (s.manager.transport.advance c w).2) = _
  rw [Transport.advance, World.call, h]
  rfl

theorem hand_apply (x : O) (p : Progress O) (w : World N) : s.hand x p w =
    ((s.consumer.wantsMore (p.handed ++ [x]), p.handing x),
      handedWorld w (s.consumer.wantsMore (p.handed ++ [x]))) := rfl

theorem stream_of_error {f : Failure} {net : N}
    (h : s.manager.transport.next c w.net = (.error f, net)) (fuel : Nat) :
    s.stream c (fuel + 1) p w = ((some (.cut (.failed f)), p),
      (s.manager.transport.discard c (heardWorld w c (.error f) net)).2) := by
  rw [stream]
  exact Searching.bind_of_eq (s.advance_of_next h p)

theorem stream_of_none {net : N} (h : s.manager.transport.next c w.net = (.ok none, net))
    (fuel : Nat) :
    s.stream c (fuel + 1) p w = ((some .exhausted, p), heardWorld w c (.ok none) net) := by
  rw [stream]
  exact Searching.bind_of_eq (s.advance_of_next h p)

section
variable {e : Entry} {net : N}
  (h : s.manager.transport.next c w.net = (.ok (some (.entry e)), net))
include h

theorem stream_of_unmapped {err : ClientError} (hx : s.consumer.toObject e = .error err)
    (fuel : Nat) : s.stream c (fuel + 1) p w = ((some (.cut (.unmapped err)), p.counting),
      (s.manager.transport.discard c (heardWorld w c (.ok (some (.entry e))) net)).2) := by
  rw [stream]
  refine (Searching.bind_of_eq (s.advance_of_next h p)).trans ?_
  refine (Searching.bind_of_eq Searching.modify_apply).trans ?_
  rw [hx]
  rfl

section
variable {x : O} (hx : s.consumer.toObject e = .ok x)
include hx

theorem stream_of_object (fuel : Nat) : s.stream c (fuel + 1) p w =
    (if s.consumer.wantsMore (p.handed ++ [x]) then s.stream c fuel
      else do
        let _ ← s.manager.transport.giveUp c
        return some (.cut .stopped)) (p.counting.handing x)
      (handedWorld (heardWorld w c (.ok (some (.entry e))) net)
        (s.consumer.wantsMore (p.handed ++ [x]))) := by
  rw [stream]
  refine (Searching.bind_of_eq (s.advance_of_next h p)).trans ?_
  refine (Searching.bind_of_eq Searching.modify_apply).trans ?_
  rw [hx]
  exact Searching.bind_of_eq (s.hand_apply x p.counting _)

theorem stream_of_wanted (hm : s.consumer.wantsMore (p.handed ++ [x]) = true) (fuel : Nat) :
    s.stream c (fuel + 1) p w = s.stream c fuel (p.counting.handing x)
      (handedWorld (heardWorld w c (.ok (some (.entry e))) net) true) := by
  rw [s.stream_of_object h hx, hm, if_pos rfl]

theorem stream_of_unwanted (hm : s.consumer.wantsMore (p.handed ++ [x]) = false) (fuel : Nat) :
    s.stream c (fuel + 1) p w = ((some (.cut .stopped), p.counting.handing x),
      (s.manager.transport.giveUp c
        (handedWorld (heardWorld w c (.ok (some (.entry e))) net) false)).2) := by
  rw [s.stream_of_object h hx, hm, if_neg Bool.false_ne_true]
  rfl

end

end

variable {s} in
theorem Absorbs.stream_eq (h : s.Absorbs c p w p' w') (fuel : Nat) :
    s.stream c (fuel + 1) p w = s.stream c fuel p' w' := by
  cases h with
  | entry h hx hm => exact s.stream_of_wanted h hx hm fuel
  | @other x net hx h =>
    rw [stream]
    refine (Searching.bind_of_eq (s.advance_of_next h p)).trans ?_
    cases x with
    | entry e => cases hx
    | reference urls => rfl
    | intermediate => rfl

/-- Reading goes on, or is at its end, or a response cannot be read; else the pass ends in another
way than by a failure. -/
theorem stream_cases (c : CursorId) (p : Progress O) (w : World N) (fuel : Nat) :
    (∃ p' w', s.Absorbs c p w p' w') ∨
      (∃ net, s.manager.transport.next c w.net = (.ok none, net)) ∨
      (∃ f net, s.manager.transport.next c w.net = (.error f, net)) ∨
      ∃ e, (s.stream c (fuel + 1) p w).1.1 = some (.cut e) ∧ ∀ f, e ≠ .failed f := by
  rcases h : s.manager.transport.next c w.net with ⟨f | (_ | x), net⟩
  · exact .inr (.inr (.inl ⟨f, net, rfl⟩))
  · exact .inr (.inl ⟨net, rfl⟩)
  cases x with
  | reference urls => exact .inl ⟨_, _, .other rfl h⟩
  | intermediate => exact .inl ⟨_, _, .other rfl h⟩
  | entry e =>
    cases hx : s.consumer.toObject e with
    | error err => exact .inr (.inr (.inr ⟨.unmapped err, by rw [s.stream_of_unmapped h hx], nofun⟩))
    | ok x =>
      cases hm : s.consumer.wantsMore (p.handed ++ [x]) with
      | true => exact .inl ⟨_, _, .entry h hx hm⟩
      | false => exact .inr (.inr (.inr ⟨.stopped, by rw [s.stream_of_unwanted h hx hm], nofun⟩))

/-! ## A pass with a late result -/

variable {s}

theorem Absorbs.late (h : s.Absorbs c p w p' w') : s.late.Absorbs c p w.late p' w'.late := by
  have hnext : ∀ {x : Response} {net : N},
      s.manager.transport.next c w.net = (.ok (some x), net) →
      s.late.manager.transport.next c w.late.net = (.ok (some x), (net, none)) := by
    intro x net h
    show Transport.postponed none (s.manager.transport.next c w.net) = _
    rw [h]
    rfl
  cases h with
  | entry h hx hm => exact .entry (hnext h) hx hm
  | other hx h => exact .other hx (hnext h)

theorem stream_late {fuel : Nat}
    (h : s.stream c fuel p w = ((some (.cut (.failed (.result r))), q), v)) :
    ∃ v', s.late.stream c fuel p w.late = ((some .exhausted, q), v') ∧ v'.net.2 = some r := by
  induction fuel generalizing p w with
  | zero => cases h
  | succ fuel ih =>
    rcases s.stream_cases c p w fuel with ⟨p', w', hmore⟩ | ⟨net, hnone⟩ | ⟨f, net, herror⟩ |
      ⟨e, he, hne⟩
    · rw [hmore.stream_eq fuel] at h
      rw [hmore.late.stream_eq fuel]
      exact ih h
    · rw [s.stream_of_none hnone fuel] at h
      cases h
    · rw [s.stream_of_error herror fuel] at h
      cases h
      have hlate : s.late.manager.transport.next c w.late.net = (.ok none, (net, some r)) := by
        show Transport.postponed none (s.manager.transport.next c w.net) = _
        rw [herror]
        rfl
      exact ⟨_, s.late.stream_of_none hlate fuel, rfl⟩
    · rw [h] at he
      cases he
      exact absurd rfl (hne _)

/-- the world after a call of `search` -/
def searchedWorld (w : World N) (session : SessionId) (request : SearchRequest)
    (a : Except Failure CursorId) (net : N) : World N :=
  { w with net, log := .search session request a :: w.log }

theorem start_of_search {session : SessionId} {request : SearchRequest}
    {a : Except Failure CursorId} {net : N}
    (h : s.manager.transport.search session request w.net = (a, net)) (p : Progress O) :
    (liftM (s.manager.transport.start session request) : Searching N O _) p w =
      ((a, p), searchedWorld w session request a net) := by
  show (((s.manager.transport.start session request w).1, p),
    (s.manager.transport.start session request w).2) = _
  rw [Transport.start, World.call, h]
  rfl

section
variable {request : SearchRequest} {session : SessionId} {net : N}

theorem pass_of_error {f : Failure}
    (h : s.manager.transport.search session request w.net = (.error f, net)) (fuel : Nat) :
    s.pass request session fuel p w =
      ((some (.failed f), p), searchedWorld w session request (.error f) net) := by
  rw [pass]
  exact Searching.bind_of_eq (start_of_search h p)

variable (s) in
/-- what is left of a pass when its stream has ended -/
def concluding (c : CursorId) : Option StreamEnd → Searching N O (Option PassEnd)
  | none => return none
  | some (.cut e) => return some e
  | some .exhausted => return some (.ended (← s.ending c))

theorem pass_of_search
    (h : s.manager.transport.search session request w.net = (.ok c, net)) (fuel : Nat) :
    s.pass request session fuel p w =
      (s.stream c fuel >>= s.concluding c) p (searchedWorld w session request (.ok c) net) := by
  rw [pass]
  exact Searching.bind_of_eq (start_of_search h p)

end

/-- A stream that is read to its end with a result held back ends with it. -/
theorem exists_of_exhausted {fuel : Nat} {w v' : World (N × Option LdapResult)}
    (h : s.late.stream c fuel p w = ((some .exhausted, q), v')) (hr : v'.net.2 = some r) :
    ∃ v, (s.late.stream c fuel >>= s.late.concluding c) p w = ((some (.ended (some r)), q), v) := by
  have hfinish : s.late.manager.transport.finish c v'.net = (some r, v'.net) := by
    show (if v'.net.2.isSome then (v'.net.2, v'.net) else _) = _
    rw [hr]
    rfl
  have hresult : (s.late.ending c v').1 = some r := by
    show (s.late.manager.transport.terminal c v').1 = some r
    rw [Transport.terminal, World.call, hfinish]
  rw [Searching.bind_of_eq h, ← hresult]
  exact ⟨_, rfl⟩

/-- **A pass that fails with a result ends with it, and has gained the same by then, if the result
comes in the end.** -/
theorem pass_late {request : SearchRequest} {session : SessionId} {fuel : Nat}
    (h : s.pass request session (fuel + 1) p w = ((some (.failed (.result r)), q), v)) :
    ∃ v', s.late.pass request session (fuel + 1) p w.late = ((some (.ended (some r)), q), v') := by
  have hlate : s.late.manager.transport.search session request w.late.net =
      Transport.postponed ⟨0⟩ (s.manager.transport.search session request w.net) := rfl
  rcases hsearch : s.manager.transport.search session request w.net with ⟨f | c, net⟩
  · rw [pass_of_error hsearch] at h
    cases h
    rw [hsearch] at hlate
    rw [pass_of_search hlate]
    exact exists_of_exhausted (s.late.stream_of_none rfl fuel) rfl
  · rw [hsearch] at hlate
    rw [pass_of_search hlate]
    rw [pass_of_search hsearch] at h
    rcases hstream : s.stream c (fuel + 1) p (searchedWorld w session request (.ok c) net) with
      ⟨⟨o, p'⟩, w'⟩
    rw [Searching.bind_of_eq hstream] at h
    rcases o with _ | (_ | e)
    · cases h
    · cases h
    · cases h
      obtain ⟨v', hv, hr⟩ := stream_late hstream
      exact exists_of_exhausted hv hr

/-! ## What the two passes come to -/

/-- A search gives up on every failure that is not to be tried again. -/
theorem onFailure_of_not_isRetry {f : Failure} (h : ¬ (s.classifier.ofFailure f).IsRetry)
    (record : ServerRecord) : s.onFailure f record =
      .error (s.classifier.failureError f record.host record.port) := by
  unfold onFailure
  split
  · next he => exact absurd (.inr he) h
  · next he => exact absurd (.inl he) h
  · rfl

end Search

/-- the results about which the options of a search decide, whatever the classifier says -/
def SearchOptions.Decides (o : SearchOptions) (r : LdapResult) : Prop :=
  r.code = ResultCode.success ∨ (r.code = ResultCode.referral ∧ o.referralStrategy ≠ .throw) ∨
    (r.code = ResultCode.sizeLimitExceeded ∧ o.allowPartialResults = true)

theorem SearchOptions.Decides.not_isPassing {o : SearchOptions} {r : LdapResult}
    (h : o.Decides r) : ¬ r.IsPassing := by
  intro hp
  rcases h with h | ⟨h, -⟩ | ⟨h, -⟩
  · exact hp.code_ne.1 h
  · exact hp.code_ne.2.1 h
  · exact hp.code_ne.2.2 h

/-- the same outcome of a pass, and the same word about completeness and the last referral -/
def SameEnd {O : Type} (a b : Except ClientError PassOutcome × Progress O) : Prop :=
  a.1 = b.1 ∧ a.2.complete = b.2.complete ∧ a.2.lastReferral = b.2.lastReferral

namespace Search

variable {N O : Type} {s : Search N O} {r : LdapResult} {p q : Progress O} {w v : World N}

theorem exists_onResult_of_decides (h : s.options.Decides r) (record : ServerRecord) :
    ∃ x, s.onResult r record = .ok x := by
  unfold onResult
  split
  case isTrue => split <;> exact ⟨_, rfl⟩
  case isFalse hreferral =>
    split
    case isTrue => exact ⟨_, rfl⟩
    case isFalse hsuccess =>
      have hcut := (h.resolve_left hsuccess).resolve_left hreferral
      exact ⟨_, if_pos hcut⟩

/-- Where the options do not decide, a result means what the failure that carries it means. -/
theorem onResult_of_not_decides (hs : s.classifier = .standard) (h : ¬ s.options.Decides r)
    (record : ServerRecord) : s.onResult r record = s.onFailure (.result r) record := by
  simp only [SearchOptions.Decides, not_or] at h
  have hof : Classifier.standard.ofFailure (.result r) = Classifier.standard.ofResult r := rfl
  have herror : Classifier.standard.failureError (.result r) = Classifier.standard.resultError r :=
    rfl
  rw [onResult, if_neg h.2.1, if_neg h.1, if_neg h.2.2, onFailure, hs, hof, herror]
  cases Classifier.standard.ofResult r <;> rfl

theorem notingResult_of_not_decides {o : SearchOptions} (h : ¬ o.Decides r) (p : Progress O) :
    p.notingResult o r = p := by
  simp only [SearchOptions.Decides, not_or] at h
  rw [Progress.notingResult, if_neg h.2.1, if_neg h.2.2]

/-- **A result comes to the same in the end and as a failure exactly if the options do not decide
about it; if they do, the failure is an error and the end is none.** -/
theorem outcome_late_iff (hs : s.classifier = .standard) {request : SearchRequest}
    {conn : Connection} {fuel : Nat} (h : s.pass request conn.session (fuel + 1) p w =
      ((some (.failed (.result r)), q), v)) :
    ∃ v', s.late.pass request conn.session (fuel + 1) p w.late =
        ((some (.ended (some r)), q), v') ∧
      (SameEnd (s.outcome conn (.failed (.result r)) q v).1
          (s.late.outcome conn (.ended (some r)) q v').1 ↔ ¬ s.options.Decides r) ∧
      (s.options.Decides r →
        (s.outcome conn (.failed (.result r)) q v).1 =
          (.error (Classifier.errorOfResult r (w.registry.server conn.server).record.host
            (w.registry.server conn.server).record.port), q) ∧
        ∃ x, (s.late.outcome conn (.ended (some r)) q v').1.1 = .ok x) := by
  obtain ⟨v', hlate⟩ := pass_late h
  have hv : v.registry = w.registry := by
    have hreg := s.registry_pass request conn.session (fuel + 1) p w
    rwa [h] at hreg
  have hv' : v'.registry = w.registry := by
    have hreg := s.late.registry_pass request conn.session (fuel + 1) p w.late
    rwa [hlate] at hreg
  have hfailed : (s.outcome conn (.failed (.result r)) q v).1 =
      (s.onFailure (.result r) (w.registry.server conn.server).record, q) := by
    rw [← hv]
    rfl
  have hended : (s.late.outcome conn (.ended (some r)) q v').1 =
      (s.onResult r (w.registry.server conn.server).record, q.notingResult s.options r) := by
    rw [← hv']
    rfl
  have hgiven : s.options.Decides r →
      s.onFailure (.result r) (w.registry.server conn.server).record =
        .error (Classifier.errorOfResult r (w.registry.server conn.server).record.host
          (w.registry.server conn.server).record.port) := by
    intro hd
    rw [onFailure_of_not_isRetry, hs]
    · rfl
    · rw [hs]
      exact Classifier.isRetry_resultDisposition_iff.not.mpr hd.not_isPassing
  refine ⟨v', hlate, ?_, fun hd => ?_⟩
  · rw [hfailed, hended]
    constructor
    · rintro ⟨hsame, -⟩ hd
      obtain ⟨x, hx⟩ := exists_onResult_of_decides hd (w.registry.server conn.server).record
      rw [hgiven hd, hx] at hsame
      cases hsame
    · intro hd
      rw [SameEnd, onResult_of_not_decides hs hd, notingResult_of_not_decides hd]
      exact ⟨rfl, rfl, rfl⟩
  · rw [hfailed, hended, hgiven hd]
    exact ⟨rfl, exists_onResult_of_decides hd _⟩

end Search

namespace Scripted

/-- a server that sends an entry and then fails with a result -/
def strained (r : LdapResult) : World Network :=
  started
    { hosts :=
        [("ldap.example.com:389",
          { scripts := [.stream [.response (.entry { dn := "cn=a" }), .failure (.result r) false .none]
              none] })]
      sessions := [{ key := "ldap.example.com:389", binary := ⟨[]⟩ }] }

def everything : SearchRequest := modest.options.request Dn.root "(objectClass=*)" .subtree []

/-- the session with that server -/
def line : Connection := ⟨0, ⟨1⟩⟩

/-- a pass on that session -/
def strainedPass (r : LdapResult) : (Option PassEnd × Progress Entry) × World Network :=
  modest.pass everything line.session 3 {} (strained r)

theorem strainedPass_eq {r : LdapResult}
    (h : (strainedPass r).1.1 = some (.failed (.result r))) :
    modest.pass everything line.session 3 {} (strained r) =
      ((some (.failed (.result r)), (strainedPass r).1.2), (strainedPass r).2) := by
  rw [← h]
  rfl

theorem outcome_late_iff_busy : modest.classifier = .standard ∧
    (strainedPass { code := ResultCode.busy }).1.1 =
      some (.failed (.result { code := ResultCode.busy })) ∧
    ∃ q v v', SameEnd
      (modest.outcome line (.failed (.result { code := ResultCode.busy })) q v).1
      (modest.late.outcome line (.ended (some { code := ResultCode.busy })) q v').1 := by
  have hfailed : (strainedPass { code := ResultCode.busy }).1.1 =
      some (.failed (.result { code := ResultCode.busy })) := by decide
  have hopen : ¬ modest.options.Decides { code := ResultCode.busy } := by
    rintro (h | ⟨h, -⟩ | ⟨h, -⟩) <;> exact absurd h (by decide)
  obtain ⟨v', -, hsame, -⟩ :=
    Search.outcome_late_iff (s := modest) rfl (strainedPass_eq hfailed)
  exact ⟨rfl, hfailed, _, _, v', hsame.mpr hopen⟩

/-- The permitted cut of a search is an error if it comes as a failure. -/
theorem permitted_cut_fails : ¬ ∀ (s : Search Network Entry) (request : SearchRequest)
    (conn : Connection) (fuel : Nat) (p q : Progress Entry) (w v : World Network)
    (v' : World (Network × Option LdapResult)) (r : LdapResult), s.classifier = .standard →
    s.pass request conn.session (fuel + 1) p w = ((some (.failed (.result r)), q), v) →
    s.late.pass request conn.session (fuel + 1) p w.late = ((some (.ended (some r)), q), v') →
    SameEnd (s.outcome conn (.failed (.result r)) q v).1
      (s.late.outcome conn (.ended (some r)) q v').1 := by
  intro h
  have hfailed : (strainedPass { code := ResultCode.sizeLimitExceeded }).1.1 =
      some (.failed (.result { code := ResultCode.sizeLimitExceeded })) := by decide
  have hpass := strainedPass_eq hfailed
  obtain ⟨v', hlate⟩ := Search.pass_late hpass
  obtain ⟨hsame, -⟩ := h modest everything line 2 _ _ _ _ v' _ rfl hpass hlate
  cases hsame

end Scripted

end DirectoryClient
