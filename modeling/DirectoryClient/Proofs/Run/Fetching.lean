import DirectoryClient.Proofs.Run.Record
import DirectoryClient.Proofs.Run.Sessions.Basic

/-!
# What finding a server and connecting it leaves

* `Event.closed?`, `Event.rejected?`   the session that is closed, or that cannot be bound, at an
                                       event;
* `Fetched`              nothing but finding servers and connecting them, where the sessions that are
                         closed are those that could not be bound;
* `leaves_of_fetches`    whatever a manager does to hand out a connection leaves this.
-/

namespace DirectoryClient

open Relation

def Event.closed? : Event → Option SessionId
  | .close s _ => some s
  | _ => none

/-- the session of a bind that fails -/
def Event.rejected? : Event → Option SessionId
  | .bind s _ (.ok r) => if r.code = ResultCode.success then none else some s
  | .bind s _ (.error _) => some s
  | _ => none

/-- an event of finding a server or of connecting it -/
def Event.IsFetching : Event → Prop
  | .routed _ _ | .located _ _ | .connect _ _ _ | .bind _ _ _ | .close _ _ => True
  | _ => False

structure Fetched (l : List Event) : Prop where
  fetching : ∀ e ∈ l, e.IsFetching
  /-- a session is closed if it cannot be bound, and only then -/
  closings : l.filterMap Event.closed? = l.filterMap Event.rejected?

theorem rejected?_bind_eq_none_iff {s : SessionId} {request : BindRequest}
    {answer : Except Failure LdapResult} :
    (Event.bind s request answer).rejected? = none ↔ Accepted answer := by
  cases answer with
  | error f => simp [Event.rejected?, Accepted]
  | ok r => simp [Event.rejected?, Accepted]

theorem rejected?_bind_of_not {s : SessionId} {request : BindRequest}
    {answer : Except Failure LdapResult} (h : ¬ Accepted answer) :
    (Event.bind s request answer).rejected? = some s := by
  cases answer with
  | error f => rfl
  | ok r =>
    have hr : r.code ≠ ResultCode.success := fun hr => h ⟨r, rfl, hr⟩
    simp [Event.rejected?, hr]

namespace Fetched

theorem nil : Fetched [] := ⟨List.forall_mem_nil _, rfl⟩

theorem single {e : Event} (h : e.IsFetching) (hc : e.closed? = e.rejected?) : Fetched [e] := by
  refine ⟨List.forall_mem_singleton.mpr h, ?_⟩
  rw [List.filterMap_cons, List.filterMap_cons, hc]
  rfl

theorem append {l l' : List Event} (h : Fetched l) (h' : Fetched l') : Fetched (l ++ l') where
  fetching e he := (List.mem_append.mp he).elim (h.fetching e) (h'.fetching e)
  closings := by rw [List.filterMap_append, List.filterMap_append, h.closings, h'.closings]

theorem reverse {l : List Event} (h : Fetched l) : Fetched l.reverse where
  fetching e he := h.fetching e (List.mem_reverse.mp he)
  closings := by rw [List.filterMap_reverse, List.filterMap_reverse, h.closings]

end Fetched

namespace Manager

variable {N α : Type} {m : Manager N}

theorem Connecting.fetched {i : Nat} {w w' : World N} {answer : Except ClientError SessionId}
    (h : m.Connecting i w answer w') : ∃ new, w'.log = new ++ w.log ∧ Fetched new := by
  have hdial : Fetched [.connect i (m.settings (w.registry.server i).record) (m.dialAnswer i w)] :=
    .single trivial rfl
  cases h with
  | kept s hs hc => exact ⟨[], rfl, .nil⟩
  | refused e hst hd => exact ⟨_, m.log_dialled i w, hdial⟩
  | bound s hst hd hb =>
    have hbind : Fetched [.bind s (w.registry.server i).record.bindRequest (m.bindAnswer i s w)] :=
      .single trivial (rejected?_bind_eq_none_iff.mpr (bindError_eq_none_iff.mp hb)).symm
    refine ⟨_, ?_, hbind.append hdial⟩
    exact m.log_loggedIn i s w
  | unbound s e hst hd hb =>
    have hna : ¬ Accepted (m.bindAnswer i s w) := by
      rw [← bindError_eq_none_iff, hb]
      nofun
    have hhung : Fetched [.close s (m.transport.hangUp s (m.loggedIn i s w)).1,
        .bind s (w.registry.server i).record.bindRequest (m.bindAnswer i s w)] := by
      refine ⟨by simp [Event.IsFetching], ?_⟩
      -- the session that is closed, and the bind that failed
      show [s] = [Event.bind s _ (m.bindAnswer i s w)].filterMap Event.rejected?
      rw [List.filterMap_cons_some (rejected?_bind_of_not hna)]
      rfl
    refine ⟨_, ?_, hhung.append hdial⟩
    exact congrArg (_ :: ·) (m.log_loggedIn i s w)

theorem Fetch.fetched {w w' : World N} (h : m.Fetch w w') :
    ∃ new, w'.log = new ++ w.log ∧ Fetched new := by
  cases h with
  | draw => exact ⟨[], rfl, .nil⟩
  | choose d => exact ⟨[_], rfl, .single trivial rfl⟩
  | locate url => exact ⟨[_], rfl, .single trivial rfl⟩
  | attach i _ hi => exact (m.connectServer_spec i w).fetched

theorem fetched_of_fetches {w w' : World N} (h : ReflTransGen m.Fetch w w') :
    ∃ new, w'.log = new ++ w.log ∧ Fetched new := by
  induction h with
  | refl => exact ⟨[], rfl, .nil⟩
  | tail _ hs ih =>
    obtain ⟨l, hl, hf⟩ := ih
    obtain ⟨l', hl', hf'⟩ := hs.fetched
    exact ⟨l' ++ l, by rw [hl', hl, List.append_assoc], hf'.append hf⟩

theorem leaves_of_fetches {x : Act N α} (hx : x.Follows m.Fetch) :
    x.Leaves fun _ l => Fetched l := fun w => fetched_of_fetches (hx w)

end Manager

end DirectoryClient
