import DirectoryClient.Proofs.Run.Move

/-!
# The worlds that a client may come to

* `Operation`             what may be asked of a manager, searches included;
* `Manager.perform`       doing it (`fetches_perform`, `follows_perform`);
* `Manager.Reachable`     the worlds after any operations, in any order, on a manager whose
                          configuration passed validation; in between the network may drift;
* `Reachable.invariant`   what every piece of work and every drift keeps holds in all of them.

A search that does not end within its bound leaves the world in the middle of the search, so the
worlds within searches are reachable too.
-/

namespace DirectoryClient

open Relation

inductive Operation : Type 1
  | select (d : Dn)
  | selectForUrl (url : LdapUrl)
  | selectForReferral (r : Referral)
  | connectServer (i : Nat)
  | connection (d : Dn)
  | connectionForUrl (url : LdapUrl)
  | connectionForReferral (r : Referral)
  | connectionToDefault
  | connect
  | close
  | search {O : Type} (options : SearchOptions) (classifier : Classifier) (consumer : Consumer O)
      (connection : Option Connection) (progress : Progress O) (base : Dn) (filter : String)
      (scope : Scope) (attributes : List String) (fuel : Nat)

/-- whether no more is asked for than a server or a connection -/
def Operation.IsFetching : Operation → Prop
  | .close | .search .. => False
  | _ => True

namespace Manager

variable {N : Type} (m : Manager N)

/-- a search on a manager -/
def searching {O : Type} (options : SearchOptions) (classifier : Classifier)
    (consumer : Consumer O) (connection : Option Connection) : Search N O :=
  ⟨m, options, classifier, consumer, connection⟩

/-- An operation without its answer.  A position at which there is no server is left alone. -/
def perform : Operation → World N → World N
  | .select d, w => (select d w).2
  | .selectForUrl url, w => (m.selectForUrl url w).2
  | .selectForReferral r, w => (m.selectForReferral r w).2
  | .connectServer i, w => if i < w.registry.size then (m.connectServer i w).2 else w
  | .connection d, w => (m.connection d w).2
  | .connectionForUrl url, w => (m.connectionForUrl url w).2
  | .connectionForReferral r, w => (m.connectionForReferral r w).2
  | .connectionToDefault, w => (m.connectionToDefault w).2
  | .connect, w => (m.connect w).2
  | .close, w => (m.close w).2
  | .search options classifier consumer conn p base filter scope attributes fuel, w =>
    ((m.searching options classifier consumer conn).run base filter scope attributes fuel p w).2

/-- `drift` is what may happen to the network by itself. -/
inductive Reachable (drift : N → N → Prop) : World N → Prop
  | start {registry : Registry} (h : Registry.ofConfig m.schema m.config = .ok registry)
      (net : N) (chance : Nat → Nat) : Reachable drift { net, registry, chance }
  | perform {w : World N} (h : Reachable drift w) (op : Operation) :
      Reachable drift (m.perform op w)
  | drift {w : World N} (h : Reachable drift w) (net : N) (hd : drift w.net net) :
      Reachable drift { w with net := net }

variable {m}

/-- Apart from closing everything and from searches, servers are found and connected. -/
theorem fetches_perform {op : Operation} (h : op.IsFetching) (w : World N) :
    ReflTransGen m.Fetch w (m.perform op w) := by
  cases op with
  | select d => exact .single (.choose d w)
  | selectForUrl url => exact .single (.locate url w)
  | selectForReferral r => exact fetches_selectForReferral r w
  | connectServer i =>
    rw [perform]
    split
    · rename_i hi
      exact .single (.attach i w hi)
    · exact .refl
  | connection d => exact fetches_connection d w
  | connectionForUrl url => exact fetches_connectionForUrl url w
  | connectionForReferral r => exact fetches_connectionForReferral r w
  | connectionToDefault => exact fetches_connectionToDefault w
  | connect => exact fetches_connect w
  | close => exact h.elim
  | search => exact h.elim

theorem follows_perform (op : Operation) (w : World N) :
    ReflTransGen m.Work w (m.perform op w) := by
  cases op with
  | close => exact follows_work follows_close w
  | search options classifier consumer conn p base filter scope attributes fuel =>
    exact Search.follows_run (m.searching options classifier consumer conn) base filter scope
      attributes fuel p w
  | _ => exact work_of_fetches (fetches_perform (by trivial) w)

theorem keeps_of_follows {P : World N → Prop} (work : ∀ w w', m.Work w w' → P w → P w')
    {w w' : World N} (h : ReflTransGen m.Work w w') (hw : P w) : P w' := by
  induction h with
  | refl => exact hw
  | tail _ hs ih => exact work _ _ hs ih

theorem Reachable.invariant {drift : N → N → Prop} {P : World N → Prop}
    (start : ∀ registry net chance, Registry.ofConfig m.schema m.config = .ok registry →
      P { net, registry, chance })
    (work : ∀ w w', m.Work w w' → P w → P w')
    (drifts : ∀ w net, drift w.net net → P w → P { w with net := net })
    {w : World N} (h : m.Reachable drift w) : P w := by
  induction h with
  | start h net chance => exact start _ net chance h
  | perform _ op ih => exact keeps_of_follows work (follows_perform op _) ih
  | drift _ net hd ih => exact drifts _ net hd ih

/-- There is no run without a configuration that passes validation. -/
theorem Reachable.accepted {drift : N → N → Prop} {w : World N} (h : m.Reachable drift w) :
    ∃ registry, Registry.ofConfig m.schema m.config = .ok registry := by
  induction h with
  | start h net chance => exact ⟨_, h⟩
  | perform _ _ ih => exact ih
  | drift _ _ _ ih => exact ih

end Manager

end DirectoryClient
