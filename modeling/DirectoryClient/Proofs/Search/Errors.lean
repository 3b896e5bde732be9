import DirectoryClient.Proofs.Search.Course

/-!
# Whose errors end a search

An error that says that the attempts are used up comes from the search itself, unless a classifier or
a consumer makes such errors.

* `ClientError.IsExhaustion`   the errors in question;
* `Classifier.Honest`, `Search.Honest`   neither classifiers nor consumers make them
                               (`honest_standard`, `honest_override`);
* `Manager.sound_connectTo`, `sound_resolve`   so no error of connecting is one of them;
* `Turns.sound`                nor is an error that ends a round.
-/

namespace DirectoryClient

def ClientError.IsExhaustion : ClientError → Prop
  | .maxRetriesExceeded _ _ => True
  | _ => False

/-- an answer that is no error of exhaustion -/
def Sound {α : Type} (a : Except ClientError α) : Prop := ∀ err, a = .error err → ¬ err.IsExhaustion

theorem sound_ok {α : Type} (a : α) : Sound (.ok a) := nofun

theorem sound_error {α : Type} {err : ClientError} (h : ¬ err.IsExhaustion) :
    Sound (.error err : Except ClientError α) := by
  rintro _ ⟨⟩
  exact h

theorem Sound.map {α β : Type} {a : Except ClientError α} (h : Sound a) (f : α → β) :
    Sound (a.map f) := by
  cases a with
  | error err => exact sound_error (h err rfl)
  | ok a => exact sound_ok _

/-- The errors of a classifier are about servers, never about attempts. -/
structure Classifier.Honest (c : Classifier) : Prop where
  result : ∀ result host port, ¬ (c.resultError result host port).IsExhaustion
  failure : ∀ f host port, ¬ (c.failureError f host port).IsExhaustion

theorem Classifier.not_isExhaustion_errorOfResult (result : LdapResult) (host : String)
    (port : UInt16) : ¬ (errorOfResult result host port).IsExhaustion := by
  unfold errorOfResult
  split_ifs <;> exact id

theorem Classifier.not_isExhaustion_errorOfFailure (f : Failure) (host : String) (port : UInt16) :
    ¬ (errorOfFailure f host port).IsExhaustion := by
  cases f with
  | result r => exact not_isExhaustion_errorOfResult r host port
  | timeout => exact id
  | _ =>
    simp only [errorOfFailure]
    split_ifs <;> exact id

theorem Classifier.honest_standard : standard.Honest :=
  ⟨not_isExhaustion_errorOfResult, not_isExhaustion_errorOfFailure⟩

theorem Classifier.honest_override (codes : List (UInt32 × Disposition))
    (failures : Option Disposition) : (override codes failures).Honest :=
  ⟨not_isExhaustion_errorOfResult, not_isExhaustion_errorOfFailure⟩

namespace Manager

variable {N : Type} {m : Manager N} (hm : m.classifier.Honest)
include hm

theorem sound_openSession (i : Nat) (r : ServerRecord) (w : World N) :
    Sound (m.openSession i r w).1 := by
  have hbind (b : Except Failure LdapResult) (err : ClientError) (he : m.bindError r b = some err) :
      ¬ err.IsExhaustion := by
    rcases b with f | result
    · obtain rfl := Option.some.inj he
      exact hm.failure f r.host r.port
    · rw [bindError] at he
      split_ifs at he
      obtain rfl := Option.some.inj he
      exact id
  simp only [openSession, Act.bind_apply]
  rcases (m.transport.dial i (m.settings r) w).1 with f | _ | session
  · refine sound_error ?_
    rw [connectError]
    split_ifs
    · exact id
    · exact hm.failure f r.host r.port
  · exact sound_error id
  · simp only [Act.bind_apply]
    generalize m.transport.login session r.bindRequest _ = answer
    cases he : m.bindError r answer.1 with
    | none => exact sound_ok _
    | some err => exact sound_error (hbind _ _ he)

theorem sound_connectTo (i : Nat) (w : World N) : Sound (m.connectTo i w).1 := by
  have hserver : Sound (m.connectServer i w).1 := by
    cases h : (m.liveSession i w).1 with
    | none =>
      rw [m.connectServer_of_not_live h]
      exact sound_openSession hm i _ _
    | some session =>
      rw [m.connectServer_of_live h]
      exact sound_ok session
  exact hserver.map (Connection.mk i)

theorem sound_connectionForReferral (referral : Referral) (w : World N) :
    Sound (m.connectionForReferral referral w).1 := by
  simp only [connectionForReferral, Act.bind_apply]
  rcases m.selectForReferral_cases referral w with ⟨-, h⟩ | ⟨e, h⟩ | ⟨text, -, url, -, h⟩
  · rw [h]
    exact sound_ok none
  · rw [h]
    exact sound_error id
  · rw [h]
    exact (sound_connectTo hm _ _).map some

end Manager

namespace Search

variable {N O : Type} {s : Search N O} {base : Dn} {request : SearchRequest} {failures : UInt32}
  {conn : Connection} {p p' : Progress O} {w w' : World N} {r : Round}
  {answer : Except ClientError Unit}

variable (s) in
/-- Neither the classifiers nor the consumer of a search make errors of exhaustion, so that such an
error says something about the search. -/
structure Honest : Prop where
  classifier : s.classifier.Honest
  manager : s.manager.classifier.Honest
  consumer : ∀ e, Sound (s.consumer.toObject e)

theorem sound_of_onwards {a : Except ClientError Connection} (ha : Sound a)
    (h : onwards failures a = .finished answer) : Sound answer := by
  cases a with
  | error err =>
    obtain rfl := Turn.finished.inj h
    exact sound_error (ha err rfl)
  | ok conn => cases h

section
variable (hs : s.Honest)
include hs

theorem sound_connectReferral (referral : Referral) (w : World N) :
    Sound (s.connectReferral referral w).1 := by
  have h := Manager.sound_connectionForReferral hs.manager referral w
  simp only [connectReferral, Act.bind_apply]
  rcases ha : (s.manager.connectionForReferral referral w).1 with err | (_ | conn)
  · exact sound_error (h err ha)
  · exact sound_error id
  · exact sound_ok conn

theorem sound_resolve (base : Dn) (last : Option Referral) (w : World N) :
    Sound (s.resolve base last w).1 := by
  cases last with
  | none => exact Manager.sound_connectTo hs.manager _ _
  | some referral => exact sound_connectReferral hs referral w

theorem sound_firstConnection (base : Dn) (w : World N) : Sound (s.firstConnection base w).1 := by
  cases h : s.connection with
  | none =>
    simp only [firstConnection, h]
    exact sound_resolve hs base none w
  | some conn =>
    simp only [firstConnection, h]
    exact sound_ok conn

theorem sound_judge {e : PassEnd} (he : ∀ err, e = .unmapped err → ¬ err.IsExhaustion)
    (record : ServerRecord) : Sound (s.judge e record) := by
  rcases e with _ | (_ | result) | f | err
  · exact sound_ok _
  · exact sound_ok _
  · simp only [judge, onResult]
    split_ifs
    · exact sound_ok _
    · exact sound_ok _
    · exact sound_ok _
    · exact sound_ok _
    · split
      · exact sound_ok _
      · exact sound_ok _
      · exact sound_error (hs.classifier.result result _ _)
  · simp only [judge, onFailure]
    split
    · exact sound_ok _
    · exact sound_ok _
    · exact sound_error (hs.classifier.failure f _ _)
  · exact sound_error (he err rfl)

theorem sound_after {o : Except ClientError PassOutcome} (ho : Sound o)
    (h : s.after base failures conn o p w = ((.finished answer, p'), w')) : Sound answer := by
  have hturn := congrArg (fun x => x.1.1) h
  rcases o with err | (_ | _ | _ | referral)
  · obtain rfl := Turn.finished.inj hturn
    exact sound_error (ho err rfl)
  · obtain rfl := Turn.finished.inj hturn
    exact sound_ok ()
  · cases hturn
  · exact sound_of_onwards (sound_resolve hs base p.lastReferral _) hturn
  · exact sound_of_onwards (sound_connectReferral hs referral w) hturn

/-- An object that an entry does not give is an error of the consumer. -/
theorem Turns.sound (h : s.Turns base request failures conn p w r p' w')
    (hr : r.turn = .finished answer) : Sound answer := by
  obtain ⟨-, p₁, w₁, p₂, w₂, hpass, houtcome, hafter⟩ := h
  obtain ⟨fuel, hpass⟩ := hpass.exists_eq
  obtain ⟨_, -, objects, -, hhands⟩ := (s.delivery_of_pass request conn.session fuel _).of_eq hpass
  have hend : ∀ err, r.ending = .unmapped err → ¬ err.IsExhaustion := by
    intro err he
    obtain ⟨e, hx⟩ := hhands.exists_unmapped (congrArg some he)
    exact hs.consumer e err hx
  have houtcome' : s.judge r.ending (w₁.registry.server conn.server).record = r.outcome :=
    congrArg (fun x => x.1.1) houtcome
  have hjudge := sound_judge hs hend (w₁.registry.server conn.server).record
  rw [houtcome'] at hjudge
  rw [hr] at hafter
  exact sound_after hs hjudge hafter

end

end Search

end DirectoryClient
