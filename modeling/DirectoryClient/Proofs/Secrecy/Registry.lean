import DirectoryClient.Proofs.Secrecy.Config
import DirectoryClient.Registry.Routing

/-!
# Servers with other passwords

* `Alike`               two attempts that fail with the same error, or both succeed;
* `ServerRecord.Twin`   the same record with another secret; nothing that is read off a record but
                        its bind request tells twins apart;
* `Registry.Twin`       the same servers with other secrets, in the same places, with the same
                        sessions;
* `twin_ofConfig`       twin configurations give twin registries;
* `Twin.route`, `Twin.enrol`   twins lead to the same server;
* `Twin.dump`           they are listed in the same way.
-/

namespace DirectoryClient

/-! ## Attempts -/

inductive Alike {ε α β : Type} (A : α → β → Prop) : Except ε α → Except ε β → Prop
  | error (e : ε) : Alike A (.error e) (.error e)
  | ok {a : α} {b : β} (h : A a b) : Alike A (.ok a) (.ok b)

namespace Alike

variable {ε ε' α β γ δ : Type} {A : α → β → Prop} {B : γ → δ → Prop}

theorem bind {x : Except ε α} {y : Except ε β} {f : α → Except ε γ} {g : β → Except ε δ}
    (h : Alike A x y) (hfg : ∀ a b, A a b → Alike B (f a) (g b)) : Alike B (x >>= f) (y >>= g) := by
  cases h with
  | error e => exact .error e
  | ok h => exact hfg _ _ h

theorem mapError {x : Except ε α} {y : Except ε β} (f : ε → ε') (h : Alike A x y) :
    Alike A (x.mapError f) (y.mapError f) := by
  cases h with
  | error e => exact .error (f e)
  | ok h => exact .ok h

/-- One attempt, and what two sides make of it. -/
theorem map (x : Except ε α) {f : α → γ} {g : α → δ} (h : ∀ a, B (f a) (g a)) :
    Alike B (x.map f) (x.map g) := by
  cases x with
  | error e => exact .error e
  | ok a => exact .ok (h a)

theorem mapM {f : α → Except ε γ} {g : β → Except ε δ} (hfg : ∀ a b, A a b → Alike B (f a) (g b))
    {l : List α} {l' : List β} (h : List.Forall₂ A l l') :
    Alike (List.Forall₂ B) (l.mapM f) (l'.mapM g) := by
  induction h with
  | nil => exact .ok .nil
  | cons hab _ ih =>
    rw [List.mapM_cons, List.mapM_cons]
    refine (hfg _ _ hab).bind fun c d hcd => ih.bind fun cs ds hcs => ?_
    exact .ok (hcs.cons hcd)

end Alike

/-! ## Records -/

section
variable {P : String → String → Prop}

/-- Equal but for the secret, which is there in both or in neither. -/
structure ServerRecord.Twin (P : String → String → Prop) (r s : ServerRecord) : Prop where
  secret : Option.Rel (fun a b => P a.value b.value) r.bindSecret s.bindSecret
  rest : s = { r with bindSecret := s.bindSecret }

theorem rel_secret {p q : Option String} (h : Option.Rel P p q) :
    Option.Rel (fun a b => P a.value b.value) (p.map Secret.mk) (q.map Secret.mk) := by
  cases h with
  | some h => exact .some h
  | none => exact .none

theorem rel_or {p q p' q' : Option String} (h : Option.Rel P p q) (h' : Option.Rel P p' q') :
    Option.Rel P (p.or p') (q.or q') := by
  cases h with
  | some h => exact .some h
  | none => exact h'

theorem inspect_secret {A : Secret → Secret → Prop} {s t : Option Secret} (h : Option.Rel A s t) :
    Inspection.ofOption Secret.inspect s = Inspection.ofOption Secret.inspect t := by
  cases h <;> rfl

namespace ServerRecord.Twin

variable {schema : Schema} {c d : Config} {s t : ServerConfig}

theorem ofConfig (h : Config.Twin P c d) :
    Alike (ServerRecord.Twin P) (ServerRecord.ofConfig schema c) (ServerRecord.ofConfig schema d) := by
  have hrest := h.rest
  rw [ServerRecord.ofConfig, ServerRecord.ofConfig, hrest]
  exact .map _ fun _ => ⟨rel_secret h.password, rfl⟩

/-- What a server leaves out is inherited, the password as well. -/
theorem ofServer (h : Config.Twin P c d) (hst : ServerConfig.Twin P s t) :
    Alike (ServerRecord.Twin P) (ServerRecord.ofServer schema c s)
      (ServerRecord.ofServer schema d t) := by
  have hrest := h.rest
  have hrest' := hst.rest
  rw [ServerRecord.ofServer, ServerRecord.ofServer, hrest, hrest']
  exact .map _ fun _ => ⟨rel_secret (rel_or hst.password h.password), rfl⟩

variable {r r' : ServerRecord} (h : ServerRecord.Twin P r r')
include h

/-- A referral passes the secret of its template on. -/
theorem ofReferral (url : LdapUrl) :
    ServerRecord.Twin P (.ofReferral schema r url) (.ofReferral schema r' url) := by
  refine ⟨h.secret, ?_⟩
  rw [ServerRecord.ofReferral, ServerRecord.ofReferral, h.rest]

theorem covers (url : LdapUrl) : r.covers schema url = r'.covers schema url := by
  rw [h.rest]
  rfl

theorem baseContext : r.baseContext = r'.baseContext := by rw [h.rest]

theorem endpoint : endpoint r.host r.port = endpoint r'.host r'.port := by rw [h.rest]

theorem settings (binary : BinaryAttributes) : r.settings binary = r'.settings binary := by
  rw [h.rest]
  rfl

theorem text : r.text = r'.text := by
  rw [h.rest]
  rfl

theorem isCandidate (best : Option Dn) :
    Registry.isCandidate best r = Registry.isCandidate best r' := by
  rw [h.rest]
  rfl

theorem inspect : r.inspect = r'.inspect := by
  rw [ServerRecord.inspect, ServerRecord.inspect, inspect_secret h.secret, h.rest]

theorem inspect_bindRequest : r.bindRequest.inspect = r'.bindRequest.inspect := by
  rw [h.rest]
  rfl

end ServerRecord.Twin

/-! ## Registries -/

structure Server.Twin (P : String → String → Prop) (s t : Server) : Prop where
  record : s.record.Twin P t.record
  session : s.session = t.session

/-- Twin servers in the same places. -/
def Registry.Twin (P : String → String → Prop) (r r' : Registry) : Prop :=
  List.Forall₂ (Server.Twin P) r.servers r'.servers

theorem forall₂_modify {α β : Type} {R : α → β → Prop} {f : α → α} {g : β → β}
    (hfg : ∀ a b, R a b → R (f a) (g b)) {l : List α} {l' : List β} (h : List.Forall₂ R l l')
    (i : Nat) : List.Forall₂ R (l.modify i f) (l'.modify i g) := by
  induction h generalizing i with
  | nil => cases i <;> exact .nil
  | cons hab h ih =>
    cases i with
    | zero => exact h.cons (hfg _ _ hab)
    | succ i => exact (ih i).cons hab

namespace Registry.Twin

theorem ofConfig {schema : Schema} {c d : Config} (h : Config.Twin P c d) :
    Alike (Registry.Twin P) (Registry.ofConfig schema c) (Registry.ofConfig schema d) := by
  have hvalid : Alike Eq c.validate d.validate := by
    rw [h.validate]
    cases d.validate with
    | error e => exact .error e
    | ok u => exact .ok rfl
  have hrest : Alike (List.Forall₂ (ServerRecord.Twin P))
      (c.servers.mapM (ServerRecord.ofServer schema c))
      (d.servers.mapM (ServerRecord.ofServer schema d)) :=
    .mapM (fun _ _ hst => ServerRecord.Twin.ofServer h hst) h.servers
  refine hvalid.bind fun _ _ _ => ?_
  refine ((ServerRecord.Twin.ofConfig h).mapError _).bind fun r r' hr => ?_
  refine (hrest.mapError _).bind fun l l' hl => .ok ?_
  refine List.Forall₂.cons ⟨hr, rfl⟩ ?_
  rw [List.forall₂_map_left_iff, List.forall₂_map_right_iff]
  exact hl.imp fun _ _ h => ⟨h, rfl⟩

variable {schema : Schema} {r r' : Registry} (h : Registry.Twin P r r')
include h

theorem first : r.first.Twin P r'.first := (List.forall₂_cons.mp h).1

theorem size : r.size = r'.size := List.Forall₂.length_eq h

theorem server (i : Nat) : (r.server i).Twin P (r'.server i) := by
  by_cases hi : i < r.size
  · have hi' : i < r'.size := h.size ▸ hi
    rw [Registry.server, Registry.server, List.getElem?_eq_getElem hi, List.getElem?_eq_getElem hi']
    exact h.get hi hi'
  · have hi' : ¬ i < r'.size := h.size ▸ hi
    rw [Registry.server, Registry.server, List.getElem?_eq_none (Nat.le_of_not_lt hi),
      List.getElem?_eq_none (Nat.le_of_not_lt hi')]
    exact h.first

theorem records : List.Forall₂ (ServerRecord.Twin P) r.records r'.records := by
  rw [Registry.records, Registry.records, List.forall₂_map_left_iff, List.forall₂_map_right_iff]
  exact h.imp fun _ _ hst => hst.record

/-- What twin records do not differ in is the same for all servers. -/
theorem map_records {α : Type} {f : ServerRecord → α}
    (hf : ∀ a b, ServerRecord.Twin P a b → f a = f b) : r.records.map f = r'.records.map f :=
  map_eq_of_forall₂ hf h.records

theorem contexts : r.contexts = r'.contexts := by
  have hc : r.records.map (·.baseContext) = r'.records.map (·.baseContext) :=
    h.map_records fun _ _ hr => hr.baseContext
  have hsome (l : List ServerRecord) : l.filterMap (·.baseContext) =
      (l.map (·.baseContext)).filterMap id := by
    rw [List.filterMap_map]
    rfl
  rw [Registry.contexts, Registry.contexts, hsome, hsome, hc]

theorem candidates (d : Dn) : r.candidates d = r'.candidates d := by
  have hbest : r.bestContext d = r'.bestContext d := by
    rw [Registry.bestContext, Registry.bestContext, h.contexts]
  rw [Registry.candidates, Registry.candidates, h.size, hbest]
  exact List.filter_congr fun i _ => (h.server i).record.isCandidate _

theorem route (d : Dn) (draw : Nat) : r.route d draw = r'.route d draw := by
  rw [Registry.route, Registry.route, h.candidates]

theorem find? (url : LdapUrl) : r.find? schema url = r'.find? schema url := by
  have hc : r.records.map (·.covers schema url) = r'.records.map (·.covers schema url) :=
    h.map_records fun _ _ hr => hr.covers url
  have hfind (l : List ServerRecord) : l.findIdx? (·.covers schema url) =
      (l.map (·.covers schema url)).findIdx? id := by
    rw [List.findIdx?_map]
    rfl
  rw [Registry.find?, Registry.find?, hfind, hfind, hc]

theorem push {s s' : ServerRecord} (hs : s.Twin P s') :
    Registry.Twin P (r.push s) (r'.push s') := by
  rw [Registry.Twin, Registry.servers_push, Registry.servers_push]
  exact List.rel_append h (.cons ⟨hs, rfl⟩ .nil)

theorem enrol (schema : Schema) (url : LdapUrl) :
    (r.enrol schema url).1 = (r'.enrol schema url).1 ∧
      Registry.Twin P (r.enrol schema url).2 (r'.enrol schema url).2 := by
  rw [Registry.enrol, Registry.enrol, ← h.find?]
  cases r.find? schema url with
  | some i => exact ⟨rfl, h⟩
  | none => exact ⟨h.size, h.push (h.first.record.ofReferral url)⟩

theorem setSession (i : Nat) (s : Option SessionId) :
    Registry.Twin P (r.setSession i s) (r'.setSession i s) := by
  rw [Registry.Twin, Registry.setSession, Registry.setSession, Registry.servers_modify,
    Registry.servers_modify]
  exact forall₂_modify (fun _ _ hst => ⟨hst.record, rfl⟩) h i

theorem dump : r.dump = r'.dump := by
  have htexts (r : Registry) : r.dump = "\n".intercalate ((r.records.map (·.text)).zipIdx.map
      fun x => toString x.2 ++ ": " ++ x.1 ++ (if x.2 = 0 then " DEFAULT" else "")) := by
    rw [Registry.records, List.map_map, List.zipIdx_map, List.map_map]
    rfl
  rw [htexts, htexts, h.map_records fun _ _ hr => hr.text]

end Registry.Twin

end

end DirectoryClient
