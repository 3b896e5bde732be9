import DirectoryClient.Proofs.Scripted.Wire
import DirectoryClient.Proofs.Search.Errors

/-!
# How many attempts a search makes

With a bound on attempts a search ends, if every cursor does.

* `FiniteCursors`         whatever is done, the cursors of a request have finitely many responses;
* `exists_course`         with a bound there is a course, so that the search ends;
* `Course.toNat_attempts`  the attempts are counted;
* `Search.UsedUp`         all attempts were made, and none of them came to an end;
* `attempt_bound`         a search makes no more attempts than it may, and says so exactly if it
                          used them up.
-/

namespace DirectoryClient

open Relation

/-! ## Counting attempts -/

theorem toNat_succ_of_le {n attempts : UInt32} (hn : n.toNat < UInt32.size - 1)
    (h : attempts.toNat ≤ n.toNat) : (attempts + 1).toNat = attempts.toNat + 1 := by
  rw [UInt32.toNat_add]
  have h1 : (1 : UInt32).toNat = 1 := rfl
  have hsize : UInt32.size = 4294967296 := rfl
  omega

theorem RetryPolicy.allowsAttempt_iff {policy : RetryPolicy} {n attempts : UInt32}
    (hp : policy.maxAttempts = some n) (hn : n.toNat < UInt32.size - 1)
    (h : attempts.toNat ≤ n.toNat) :
    policy.allowsAttempt (attempts + 1) = true ↔ attempts.toNat < n.toNat := by
  rw [allowsAttempt, hp]
  simp only [decide_eq_true_eq, UInt32.le_iff_toNat_le]
  rw [toNat_succ_of_le hn h]
  exact Nat.succ_le_iff

namespace Search

variable {N O : Type} {s : Search N O} {base : Dn} {request : SearchRequest} {failures : UInt32}
  {conn : Connection} {p p' : Progress O} {w w' : World N} {r : Round} {rounds : List Round}
  {answer : Except ClientError Unit} {n : UInt32}

variable (s) in
/-- Wherever the work of the manager leads, a cursor for the request has finitely many responses. -/
def FiniteCursors (request : SearchRequest) (w : World N) : Prop :=
  ∀ w', ReflTransGen s.manager.Work w w' → ∀ session c,
    (s.manager.transport.search session request w'.net).1 = .ok c →
    s.manager.transport.Finite c (s.manager.transport.search session request w'.net).2

theorem FiniteCursors.work (h : s.FiniteCursors request w)
    (hw : ReflTransGen s.manager.Work w w') : s.FiniteCursors request w' :=
  fun w'' hw' => h w'' (hw.trans hw')

theorem exists_turns (h : s.options.retry.allowsAttempt (p.attempts + 1) = true)
    (hfin : s.FiniteCursors request w) (base : Dn) (failures : UInt32) (conn : Connection) :
    ∃ r p' w', s.Turns base request failures conn p w r p' w' := by
  obtain ⟨e, p₁, w₁, hpass⟩ := s.halts_pass p.beginning (hfin w .refl conn.session)
  rcases ho : s.outcome conn e p₁ w₁ with ⟨⟨o, p₂⟩, w₂⟩
  rcases ht : s.after base failures conn o p₂ w₂ with ⟨⟨t, p'⟩, w'⟩
  exact ⟨⟨e, o, t⟩, p', w', h, p₁, w₁, p₂, w₂, hpass, ho, ht⟩

section
variable (hs : s.options.retry.maxAttempts = some n) (hn : n.toNat < UInt32.size - 1)
include hs hn

theorem Turns.toNat_attempts (h : s.Turns base request failures conn p w r p' w')
    (hle : p.attempts.toNat ≤ n.toNat) :
    p'.attempts.toNat = p.attempts.toNat + 1 ∧ p'.attempts.toNat ≤ n.toNat := by
  have hlt := (RetryPolicy.allowsAttempt_iff hs hn hle).mp h.allowed
  have hcount : p'.attempts.toNat = p.attempts.toNat + 1 := by
    rw [h.attempts_eq, toNat_succ_of_le hn hle]
  exact ⟨hcount, by omega⟩

/-- A bound on attempts leads to an answer; the induction is on the attempts that are left. -/
theorem exists_course {k : Nat} (hk : p.attempts.toNat + k = n.toNat)
    (hfin : s.FiniteCursors request w) (base : Dn) (failures : UInt32) (conn : Connection) :
    ∃ rounds answer p' w', s.Course base request failures conn p w rounds answer p' w' := by
  induction k generalizing p w failures conn with
  | zero =>
    have hle : p.attempts.toNat ≤ n.toNat := Nat.le.intro hk
    have hmade : s.options.retry.allowsAttempt (p.attempts + 1) = false := by
      rw [← Bool.not_eq_true, RetryPolicy.allowsAttempt_iff hs hn hle]
      omega
    exact ⟨[], _, p, w, .exhausted hmade⟩
  | succ k ih =>
    have hle : p.attempts.toNat ≤ n.toNat := Nat.le.intro hk
    have hallowed := (RetryPolicy.allowsAttempt_iff hs hn hle).mpr (by omega)
    obtain ⟨r, p₁, w₁, hturn⟩ := exists_turns hallowed hfin base failures conn
    cases hr : r.turn with
    | finished answer => exact ⟨[r], answer, p₁, w₁, .finished hturn hr⟩
    | again failures' conn' =>
      obtain ⟨hcount, -⟩ := hturn.toNat_attempts hs hn hle
      have hk' : p₁.attempts.toNat + k = n.toNat := by omega
      obtain ⟨rounds, answer, p', w', hrest⟩ := ih hk' (hfin.work hturn.work) failures' conn'
      exact ⟨r :: rounds, answer, p', w', .again hturn hr hrest⟩

/-- Each round is one attempt, and there are no more attempts than allowed. -/
theorem Course.toNat_attempts (h : s.Course base request failures conn p w rounds answer p' w')
    (hle : p.attempts.toNat ≤ n.toNat) :
    p'.attempts.toNat = p.attempts.toNat + rounds.length ∧ p'.attempts.toNat ≤ n.toNat := by
  induction h with
  | exhausted h => exact ⟨rfl, hle⟩
  | finished h hr => exact h.toNat_attempts hs hn hle
  | again h hr hrest ih =>
    obtain ⟨hcount, hle'⟩ := h.toNat_attempts hs hn hle
    obtain ⟨hcount', hle''⟩ := ih hle'
    refine ⟨?_, hle''⟩
    rw [hcount', hcount, List.length_cons]
    omega

end

theorem Runs.toNat_attempts (hs : s.options.retry.maxAttempts = some n)
    (hn : n.toNat < UInt32.size - 1) (h : s.Runs base request p w rounds answer p' w') :
    p'.attempts.toNat = rounds.length ∧ rounds.length ≤ n.toNat := by
  cases h with
  | unconnected h => exact ⟨rfl, Nat.zero_le _⟩
  | connected h hcourse =>
    obtain ⟨hcount, hle⟩ := hcourse.toNat_attempts hs hn (Nat.zero_le _)
    have hzero : p.restarted.attempts.toNat = 0 := rfl
    omega

theorem exists_runs (hs : s.options.retry.maxAttempts = some n) (hn : n.toNat < UInt32.size - 1)
    (hfin : s.FiniteCursors request w) (base : Dn) (p : Progress O) :
    ∃ rounds answer p' w', s.Runs base request p w rounds answer p' w' := by
  have hwork := Manager.follows_work (s.follows_firstConnection base) w
  rcases hfirst : s.firstConnection base w with ⟨err | conn, w₁⟩
  · exact ⟨[], _, _, _, .unconnected hfirst⟩
  · rw [hfirst] at hwork
    have hk : p.restarted.attempts.toNat + n.toNat = n.toNat := Nat.zero_add _
    obtain ⟨rounds, answer, p', w', hcourse⟩ :=
      exists_course hs hn hk (hfin.work hwork) base 0 conn
    exact ⟨rounds, answer, p', w', .connected hfirst hcourse⟩

/-! ## The bound -/

variable (s) in
/-- All attempts were made: there was a connection for each of them, and for one more, and no pass
ended the search. -/
structure UsedUp (base : Dn) (n : UInt32) (w : World N) (rounds : List Round) : Prop where
  connected : ∃ conn, (s.firstConnection base w).1 = .ok conn
  unsettled : ∀ r ∈ rounds, ¬ r.Settled
  ledOn : ∀ r ∈ rounds, r.LedOn
  length : rounds.length = n.toNat

theorem Runs.answer_of_usedUp (h : s.Runs base request p w rounds answer p' w')
    (hu : s.UsedUp base n w rounds) : answer = .error (s.exhaustion base) := by
  cases h with
  | unconnected h =>
    obtain ⟨conn, hconn⟩ := hu.connected
    rw [h] at hconn
    cases hconn
  | connected h hcourse =>
    rcases hcourse.cases_end with ⟨-, hanswer, -⟩ | ⟨r, hr, hanswer⟩
    · exact hanswer
    · obtain ⟨failures, conn, hled⟩ := hu.ledOn r hr
      rw [hled] at hanswer
      cases hanswer

theorem Runs.usedUp_of_answer (hs : s.options.retry.maxAttempts = some n)
    (hn : n.toNat < UInt32.size - 1) (hh : s.Honest)
    (h : s.Runs base request p w rounds answer p' w') (ha : ¬ Sound answer) :
    s.UsedUp base n w rounds := by
  obtain ⟨hcount, hle⟩ := h.toNat_attempts hs hn
  cases h with
  | unconnected h =>
    have hfirst := sound_firstConnection hh base w
    rw [h] at hfirst
    exact absurd (sound_error (hfirst _ rfl)) ha
  | connected h hcourse =>
    have hturns := hcourse.exists_turns
    rcases hcourse.cases_end with ⟨hled, -, hmade⟩ | ⟨r, hr, hanswer⟩
    · refine ⟨⟨_, congrArg Prod.fst h⟩, fun r hr => ?_, hled, ?_⟩
      · obtain ⟨_, _, _, _, _, _, hturn⟩ := hturns r hr
        exact hturn.not_settled (hled r hr)
      · have hlt := RetryPolicy.allowsAttempt_iff hs hn (by omega : p'.attempts.toNat ≤ n.toNat)
        rw [hmade] at hlt
        have hge : ¬ p'.attempts.toNat < n.toNat := fun hl => Bool.false_ne_true (hlt.mpr hl)
        omega
    · obtain ⟨_, _, _, _, _, _, hturn⟩ := hturns r hr
      exact absurd (hturn.sound hh hanswer) ha

/-- **With a bound on attempts a search ends, whatever the servers do, if every cursor does.**  It
makes no more passes than allowed, counts each of them, and says that the attempts are used up
exactly if they are. -/
theorem attempt_bound (hs : s.options.retry.maxAttempts = some n) (hn : n.toNat < UInt32.size - 1)
    {filter : String} {scope : Scope} {attributes : List String}
    (hfin : s.FiniteCursors (s.options.request base filter scope attributes) w) (p : Progress O) :
    ∃ rounds answer p' w',
      s.Runs base (s.options.request base filter scope attributes) p w rounds answer p' w' ∧
      Searching.Comes (s.run base filter scope attributes) p w answer p' w' ∧
      (∀ fuel, (s.run base filter scope attributes fuel p w).1.1 = none ∨
        s.run base filter scope attributes fuel p w = ((some answer, p'), w')) ∧
      (∃ new, w'.log = new ++ w.log ∧
        Recounts (s.options.request base filter scope attributes) rounds new.reverse) ∧
      rounds.length ≤ n.toNat ∧ p'.attempts.toNat = rounds.length ∧
      (s.UsedUp base n w rounds → answer = .error (.maxRetriesExceeded n
        ("search of " ++ base.text ++ " did not complete"))) ∧
      (s.Honest → ((∃ k text, answer = .error (.maxRetriesExceeded k text)) ↔
        s.UsedUp base n w rounds)) := by
  obtain ⟨rounds, answer, p', w', hruns⟩ := exists_runs hs hn hfin base p
  obtain ⟨hcount, hle⟩ := hruns.toNat_attempts hs hn
  have hused (hu : s.UsedUp base n w rounds) : answer = .error (.maxRetriesExceeded n
      ("search of " ++ base.text ++ " did not complete")) := by
    rw [hruns.answer_of_usedUp hu, exhaustion, hs]
    rfl
  have hsame := hruns.comes.none_or_eq (s.within_run base filter scope attributes)
  refine ⟨rounds, answer, p', w', hruns, hruns.comes, hsame, hruns.exists_log, hle, hcount, hused,
    fun hh => ⟨?_, fun hu => ⟨_, _, hused hu⟩⟩⟩
  rintro ⟨k, text, rfl⟩
  exact hruns.usedUp_of_answer hs hn hh fun hsound => hsound _ rfl trivial

end Search

namespace Scripted

theorem finite_of_length_le {c : CursorId} {k : Nat} {n : Network}
    (h : ∀ x, n.cursor? c = some x → x.steps.length ≤ k) : transport.Finite c n := by
  induction k generalizing n with
  | zero =>
    refine .intro fun r hr => ?_
    obtain ⟨x, step, steps, hx, hsteps, -⟩ := Network.setCursor_of_next hr
    have hle := h x hx
    rw [hsteps] at hle
    cases hle
  | succ k ih =>
    refine .intro fun r hr => ih fun y hy => ?_
    obtain ⟨x, step, steps, hx, hsteps, hnext⟩ := Network.setCursor_of_next hr
    have hset := Network.cursor?_setCursor (Option.isSome_iff_exists.mpr ⟨x, hx⟩)
      { x with steps := steps }
    have hy' : (Network.next c n).2.cursor? c = some y := hy
    rw [hnext, hset] at hy'
    obtain rfl := Option.some.inj hy'
    have hle := h x hx
    rw [hsteps] at hle
    exact Nat.le_of_succ_le_succ hle

/-- The cursors of a scripted network are finite. -/
theorem finite_transport (c : CursorId) (n : Network) : transport.Finite c n := by
  cases hc : n.cursor? c with
  | none => exact finite_of_length_le (k := 0) fun x hx => absurd (hc.symm.trans hx) nofun
  | some x =>
    refine finite_of_length_le (k := x.steps.length) fun y hy => ?_
    obtain rfl := Option.some.inj (hc.symm.trans hy)
    exact Nat.le_refl _

/-- a server that is always busy -/
def busy : Network where
  hosts :=
    [("ldap.example.com:389",
      { scripts := List.replicate 4 (.stream [] (some { code := ResultCode.busy })) })]

/-- a search that tries twice -/
def persistent : Search Network Entry where
  manager := client
  options := { retry := RetryPolicy.immediate.withMaxAttempts 2 }
  classifier := .standard
  consumer := ⟨.ok, fun _ => true⟩

def repeated : (Option (Except ClientError Unit) × Progress Entry) × World Network :=
  persistent.run Dn.root "(objectClass=*)" .subtree [] 4 {} (started busy)

theorem attempt_bound_busy :
    persistent.options.retry.maxAttempts = some 2 ∧ (2 : UInt32).toNat < UInt32.size - 1 ∧
      persistent.FiniteCursors
        (persistent.options.request Dn.root "(objectClass=*)" .subtree []) (started busy) ∧
      persistent.Honest ∧
      repeated.1.1 = some (.error (.maxRetriesExceeded 2 "search of  did not complete")) ∧
      repeated.1.2.attempts.toNat = 2 ∧
      ∃ rounds, rounds.length = 2 ∧ persistent.UsedUp Dn.root 2 (started busy) rounds := by
  have hanswer : repeated.1.1 =
      some (.error (.maxRetriesExceeded 2 "search of  did not complete")) := by decide +kernel
  have hfin : persistent.FiniteCursors
      (persistent.options.request Dn.root "(objectClass=*)" .subtree []) (started busy) :=
    fun _ _ _ c _ => finite_transport c _
  have hhonest : persistent.Honest :=
    ⟨Classifier.honest_standard, Classifier.honest_standard, sound_ok⟩
  have hn : (2 : UInt32).toNat < UInt32.size - 1 := by decide
  unfold repeated at hanswer ⊢
  obtain ⟨rounds, answer, p', w', -, -, hsame, -, -, hcount, -, hiff⟩ :=
    Search.attempt_bound (n := 2) rfl hn hfin {}
  rcases hsame 4 with hnone | heq
  · rw [hnone] at hanswer
    cases hanswer
  · rw [heq] at hanswer ⊢
    obtain rfl := Option.some.inj hanswer
    have hused := (hiff hhonest).mp ⟨_, _, rfl⟩
    have hlength : rounds.length = 2 := hused.length
    exact ⟨rfl, hn, hfin, hhonest, rfl, hcount.trans hlength, rounds, hlength, hused⟩

end Scripted

end DirectoryClient
