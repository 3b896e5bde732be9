import DirectoryClient.Classifier

/-!
# What the standard classifier tries again

The disposition of a failure and the error that it becomes are computed apart from each other.

* `Failure.IsLost`         the failures that end a connection;
* `LdapResult.IsPassing`   the results that may be others later;
* `Disposition.IsRetry`    the dispositions that ask for the same request once more;
* `isRetry_failureDisposition_iff`    which failures are tried again;
* `isTransient_errorOfFailure_iff`    which of them become transient errors;
* `transient_iff_isRetry`  these are the same ones, but for results that the transport reports.
-/

namespace DirectoryClient

/-- whether a failure means that the connection is lost -/
def Failure.IsLost : Failure → Prop
  | .io _ | .endOfStream | .timeout | .requestLost | .responseLost => True
  | _ => False

/-- whether a server that answers so may answer otherwise later, on this connection or another -/
def LdapResult.IsPassing (r : LdapResult) : Prop :=
  (r.code = ResultCode.busy ∨ r.code = ResultCode.unavailable) ∨
    r.code = ResultCode.serverDown ∨ r.code = ResultCode.connectError

theorem LdapResult.IsPassing.code_ne {r : LdapResult} (h : r.IsPassing) :
    r.code ≠ ResultCode.success ∧ r.code ≠ ResultCode.referral ∧
      r.code ≠ ResultCode.sizeLimitExceeded := by
  rcases h with (h | h) | (h | h) <;> rw [h] <;> decide

/-- whether the same request is to be sent once more, on this connection or another -/
def Disposition.IsRetry (d : Disposition) : Prop := d = .retrySameServer ∨ d = .reconnect

namespace Classifier

/-! ## Dispositions -/

theorem isRetry_resultDisposition_iff {r : LdapResult} :
    (resultDisposition r).IsRetry ↔ r.IsPassing := by
  unfold resultDisposition LdapResult.IsPassing
  split
  case isTrue hstay => exact iff_of_true (.inl rfl) (.inl hstay)
  case isFalse hstay =>
    split
    case isTrue hmove => exact iff_of_true (.inr rfl) (.inr hmove)
    case isFalse hmove =>
      refine iff_of_false ?_ (not_or.mpr ⟨hstay, hmove⟩)
      split <;> rintro (h | h) <;> cases h

theorem isRetry_failureDisposition_iff {f : Failure} :
    (failureDisposition f).IsRetry ↔ f.IsLost ∨ ∃ r, f = .result r ∧ r.IsPassing := by
  cases f with
  | result r =>
    calc (resultDisposition r).IsRetry
      _ ↔ r.IsPassing := isRetry_resultDisposition_iff
      _ ↔ _ := by simp [Failure.IsLost]
  | _ => simp [failureDisposition, Disposition.IsRetry, Failure.IsLost]

/-! ## Errors -/

theorem isTransient_errorOfResult (r : LdapResult) (host : String) (port : UInt16) :
    (errorOfResult r host port).isTransient = false := by
  unfold errorOfResult
  split
  · rfl
  · split
    · rfl
    · split <;> rfl

/-- A passing result becomes an error like those of most other results. -/
theorem errorOfResult_of_isPassing {r : LdapResult} (h : r.IsPassing) (host : String)
    (port : UInt16) : errorOfResult r host port =
      .directory ("LDAP error from " ++ endpoint host port ++ ": " ++ r.message) r.code := by
  have hne : r.code ≠ ResultCode.invalidCredentials ∧
      r.code ≠ ResultCode.insufficientAccessRights ∧ r.code ≠ ResultCode.noSuchObject := by
    rcases h with (h | h) | (h | h) <;> rw [h] <;> decide
  rw [errorOfResult, if_neg hne.1, if_neg hne.2.1, if_neg hne.2.2]

theorem isTransient_errorOfFailure_iff {f : Failure} (host : String) (port : UInt16) :
    (errorOfFailure f host port).isTransient = true ↔ f.IsLost := by
  cases f with
  | result r => simp [errorOfFailure, isTransient_errorOfResult, Failure.IsLost]
  | _ => simp [errorOfFailure, failureDisposition, ClientError.isTransient, Failure.IsLost]

/-! ## Both -/

/-- **The error of a failure is transient exactly if the request is to be sent once more, unless the
failure carries a passing result: that is tried again, but its error is permanent.** -/
theorem transient_iff_isRetry (f : Failure) (host : String) (port : UInt16) :
    (((standard.failureError f host port).isTransient = true ↔ (standard.ofFailure f).IsRetry) ↔
        ∀ r, f = .result r → ¬ r.IsPassing) ∧
      ∀ r, f = .result r → r.IsPassing → (standard.ofFailure f).IsRetry ∧
        standard.failureError f host port =
          .directory ("LDAP error from " ++ endpoint host port ++ ": " ++ r.message) r.code := by
  have hretry : (standard.ofFailure f).IsRetry ↔ f.IsLost ∨ ∃ r, f = .result r ∧ r.IsPassing :=
    isRetry_failureDisposition_iff
  have htransient : (standard.failureError f host port).isTransient = true ↔ f.IsLost :=
    isTransient_errorOfFailure_iff host port
  have hlost : ∀ r, f = .result r → ¬ f.IsLost := by
    rintro r rfl
    exact id
  rw [htransient, hretry]
  constructor
  · constructor
    · intro h r hr hp
      exact hlost r hr (h.mpr (.inr ⟨r, hr, hp⟩))
    · intro h
      refine ⟨.inl, fun hor => hor.resolve_right ?_⟩
      rintro ⟨r, hr, hp⟩
      exact h r hr hp
  · rintro r rfl hp
    exact ⟨.inr ⟨r, rfl, hp⟩, errorOfResult_of_isPassing hp host port⟩

theorem unavailable_retried_not_transient : ¬ ∀ (f : Failure) (host : String) (port : UInt16),
    (standard.failureError f host port).isTransient = true ↔ (standard.ofFailure f).IsRetry := by
  intro h
  have hretry : (standard.ofFailure (.result { code := ResultCode.unavailable })).IsRetry := .inl rfl
  have htransient := (h _ "h" 389).mpr hretry
  exact absurd htransient (by decide)

end Classifier

end DirectoryClient
