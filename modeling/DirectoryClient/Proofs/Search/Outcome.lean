import DirectoryClient.Proofs.Classifier
import DirectoryClient.Proofs.Run.Record

/-!
# What the end of a pass comes to

With the standard classifier the end of a pass decides whether the search is over.

* `SearchOptions.Settles`   the ends of a pass after which the search is over and well;
* `SearchOptions.Cuts`      the one of them that leaves the search incomplete;
* `SearchOptions.Repeats`   the ends after which there may be another pass;
* `Search.judged`           what each of them comes to;
* `Progress.complete_noting`   what it does to the progress of the search;
* `leaves_after`            what is done about it.
-/

namespace DirectoryClient

namespace SearchOptions

variable (o : SearchOptions)

def Cuts : PassEnd → Prop
  | .ended (some r) => r.code = ResultCode.sizeLimitExceeded ∧ o.allowPartialResults = true
  | _ => False

def Settles : PassEnd → Prop
  | .stopped => True
  | .ended none => True
  | .ended (some r) => r.code = ResultCode.success ∨
      (r.code = ResultCode.referral ∧ o.referralStrategy = .ignore) ∨ o.Cuts (.ended (some r))
  | .failed _ => False
  | .unmapped _ => False

def Repeats : PassEnd → Prop
  | .failed f => f.IsLost ∨ ∃ r : LdapResult, f = .result r ∧ r.IsPassing
  | .ended (some r) =>
    r.IsPassing ∨ (r.code = ResultCode.referral ∧ o.referralStrategy = .follow)
  | _ => False

variable {o}

theorem settles_of_cuts {e : PassEnd} (h : o.Cuts e) : o.Settles e := by
  rcases e with _ | (_ | r) | f | err
  · trivial
  · trivial
  · exact .inr (.inr h)
  · exact h
  · exact h

theorem not_settles_of_repeats {e : PassEnd} (h : o.Repeats e) : ¬ o.Settles e := by
  rcases e with _ | (_ | r) | f | err
  · exact absurd h id
  · exact absurd h id
  · rintro (hc | ⟨hc, hi⟩ | ⟨hc, -⟩)
    · rcases h with h | ⟨h, -⟩
      · exact h.code_ne.1 hc
      · exact absurd (h.symm.trans hc) (by decide)
    · rcases h with h | ⟨-, hf⟩
      · exact h.code_ne.2.1 hc
      · exact absurd (hi.symm.trans hf) (by decide)
    · rcases h with h | ⟨h, -⟩
      · exact h.code_ne.2.2 hc
      · exact absurd (h.symm.trans hc) (by decide)
  · exact id
  · exact id

end SearchOptions

/-! ## What one pass decides -/

namespace Classifier

theorem repeats_of_failureDisposition {o : SearchOptions} {f : Failure} {d : Disposition}
    (h : failureDisposition f = d) (hd : d = .retrySameServer ∨ d = .reconnect) :
    o.Repeats (.failed f) := by
  subst h
  exact isRetry_failureDisposition_iff.mp hd

end Classifier

namespace Search

variable {N O : Type} {s : Search N O}

variable (s) in
/-- What the end of a pass may come to. -/
inductive Judged (e : PassEnd) : Except ClientError PassOutcome → Prop
  | settled (h : s.options.Settles e) : Judged e (.ok .done)
  | repeated (h : s.options.Repeats e) {o : PassOutcome} (ho : o ≠ .done) : Judged e (.ok o)
  | failed (h : ¬ s.options.Settles e) (err : ClientError) : Judged e (.error err)

/-- A pass is all that was wanted exactly if it settles the search. -/
theorem Judged.done_iff {e : PassEnd} {o : Except ClientError PassOutcome} (h : s.Judged e o) :
    o = .ok .done ↔ s.options.Settles e := by
  cases h with
  | settled h => simp [h]
  | repeated h ho => simpa [SearchOptions.not_settles_of_repeats h] using ho
  | failed h err => simp [h]

theorem Judged.repeats {e : PassEnd} {x : PassOutcome} (h : s.Judged e (.ok x)) (hx : x ≠ .done) :
    s.options.Repeats e := by
  cases h with
  | settled h => exact absurd rfl hx
  | repeated h ho => exact h

theorem judged_failure (hs : s.classifier = .standard) (f : Failure) (r : ServerRecord) :
    s.Judged (.failed f) (s.onFailure f r) := by
  have hof : s.classifier.ofFailure f = Classifier.failureDisposition f := by rw [hs]; rfl
  unfold onFailure
  rw [hof]
  cases hd : Classifier.failureDisposition f with
  | retrySameServer =>
    exact .repeated (Classifier.repeats_of_failureDisposition hd (.inl rfl)) nofun
  | reconnect => exact .repeated (Classifier.repeats_of_failureDisposition hd (.inr rfl)) nofun
  | followReferral => exact .failed id _
  | fatal => exact .failed id _

theorem judged_result (hs : s.classifier = .standard) (result : LdapResult) (r : ServerRecord) :
    s.Judged (.ended (some result)) (s.onResult result r) := by
  have hof : s.classifier.ofResult result = Classifier.resultDisposition result := by rw [hs]; rfl
  unfold onResult
  rw [hof]
  split
  case isTrue href =>
    split
    case isTrue hi => exact .settled (.inr (.inl ⟨href.1, hi⟩))
    case isFalse hi =>
      have hf : s.options.referralStrategy = .follow := by
        cases hst : s.options.referralStrategy with
        | throw => exact absurd hst href.2
        | follow => rfl
        | ignore => exact absurd hst hi
      refine .repeated ?_ nofun
      exact .inr ⟨href.1, hf⟩
  case isFalse href =>
    split
    case isTrue hok => exact .settled (.inl hok)
    case isFalse hok =>
      split
      case isTrue hcut => exact .settled (.inr (.inr hcut))
      case isFalse hcut =>
        have hn : ¬ s.options.Settles (.ended (some result)) := by
          rintro (h | ⟨h, hi⟩ | h)
          · exact hok h
          · exact href ⟨h, by rw [hi]; decide⟩
          · exact hcut h
        cases hd : Classifier.resultDisposition result with
        | retrySameServer =>
          have hpass := Classifier.isRetry_resultDisposition_iff.mp (.inl hd)
          refine .repeated ?_ nofun
          exact .inl hpass
        | reconnect =>
          have hpass := Classifier.isRetry_resultDisposition_iff.mp (.inr hd)
          refine .repeated ?_ nofun
          exact .inl hpass
        | followReferral => exact .failed hn _
        | fatal => exact .failed hn _

theorem judged (hs : s.classifier = .standard) (e : PassEnd) (r : ServerRecord) :
    s.Judged e (s.judge e r) := by
  rcases e with _ | (_ | result) | f | err
  · exact .settled trivial
  · exact .settled trivial
  · exact judged_result hs result r
  · exact judged_failure hs f r
  · exact .failed id err

end Search

/-- A complete search is complete after a pass unless the pass was cut off. -/
theorem Progress.complete_noting {O : Type} {p : Progress O} (hp : p.complete = true)
    (o : SearchOptions) (e : PassEnd) : (p.noting o e).complete = false ↔ o.Cuts e := by
  rcases e with _ | (_ | r) | f | err
  · simp [noting, SearchOptions.Cuts, hp]
  · simp [noting, SearchOptions.Cuts, hp]
  · simp only [noting, notingResult, SearchOptions.Cuts]
    split
    case isTrue h =>
      have hne : r.code ≠ ResultCode.sizeLimitExceeded := by rw [h.1]; decide
      simp [hp, hne]
    case isFalse h =>
      split
      case isTrue hc => simpa using hc
      case isFalse hc => simpa [hp] using hc
  · simp [noting, SearchOptions.Cuts, hp]
  · simp [noting, SearchOptions.Cuts, hp]

/-- The end of a pass changes two fields. -/
theorem Progress.exists_noting {O : Type} (o : SearchOptions) (e : PassEnd) (p : Progress O) :
    ∃ complete last, p.noting o e = { p with complete := complete, lastReferral := last } := by
  rcases e with _ | (_ | r) | f | err
  case ended.some =>
    simp only [noting, notingResult]
    split
    · exact ⟨_, _, rfl⟩
    · split <;> exact ⟨_, _, rfl⟩
  all_goals exact ⟨_, _, rfl⟩

theorem Progress.handed_noting {O : Type} (o : SearchOptions) (e : PassEnd) (p : Progress O) :
    (p.noting o e).handed = p.handed := by
  obtain ⟨complete, last, h⟩ := p.exists_noting o e
  rw [h]

theorem Progress.attempts_noting {O : Type} (o : SearchOptions) (e : PassEnd) (p : Progress O) :
    (p.noting o e).attempts = p.attempts := by
  obtain ⟨complete, last, h⟩ := p.exists_noting o e
  rw [h]

namespace Search

variable {N O : Type} (s : Search N O)

/-! ## From pass to pass -/

theorem onwards_ne (failures : UInt32) (a : Except ClientError Connection) :
    onwards failures a ≠ .finished (.ok ()) := by
  cases a <;> simp [onwards]

theorem leaves_resolve (base : Dn) (last : Option Referral) :
    (s.resolve base last).Leaves fun _ l => Between l :=
  Manager.leaves_of_follows (s.follows_resolve base last)

/-- Nothing but the outcome of a pass decides whether the search is over and well. -/
theorem leaves_after (base : Dn) (failures : UInt32) (conn : Connection)
    (o : Except ClientError PassOutcome) (p : Progress O) :
    Searching.Leaves (s.after base failures conn o) p fun t p' l =>
      Between l ∧ p' = p ∧ (t = .finished (.ok ()) ↔ o = .ok .done) ∧
        ∀ n c, t = .again n c → ∃ x, o = .ok x ∧ x ≠ .done := by
  have hwait := Manager.leaves_of_follows (s.follows_wait (N := N) failures)
  rcases o with e | (_ | _ | _ | r)
  · exact .pure ⟨.nil, rfl, by simp, by simp⟩
  · exact .pure ⟨.nil, rfl, by simp, by simp⟩
  · refine .bind (.lift (hwait.mono fun _ l hl => .pure ⟨hl, rfl, by simp, ?_⟩))
    exact fun _ _ _ => ⟨_, rfl, by simp⟩
  · refine .bind (.lift (.call fun b => .bind (.lift (hwait.mono fun _ l hl => .bind (.get ?_)))))
    refine .bind (.lift ((s.leaves_resolve base _).mono fun a l' hl' => .pure ?_))
    refine ⟨?_, rfl, by simp [onwards_ne], fun _ _ _ => ⟨_, rfl, by simp⟩⟩
    have hclose : Between [.close conn.session b] := .single trivial
    rw [List.nil_append, List.append_nil]
    exact (hl'.append hl).append hclose
  · have hreferral := Manager.leaves_of_follows (s.follows_connectReferral r)
    refine .bind (.lift (hreferral.mono fun a l hl => .pure ⟨hl, rfl, by simp [onwards_ne], ?_⟩))
    exact fun _ _ _ => ⟨_, rfl, by simp⟩

theorem leaves_noted (conn : Connection) (e : PassEnd) (p : Progress O) :
    Searching.Leaves (s.outcome (N := N) conn e) p fun _ p' l =>
      p' = p.noting s.options e ∧ l = [.passed e] := by
  refine .bind (.modify (.bind (.lift (.record (.bind (.lift (.ask fun server => .pure ?_)))))))
  exact ⟨rfl, rfl⟩

end Search

end DirectoryClient
