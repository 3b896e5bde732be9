import DirectoryClient.Proofs.Run.Reachable
import DirectoryClient.Proofs.Scripted.Lawful
import DirectoryClient.Proofs.Secrecy.Search

/-!
# Passwords do not leak

Two clients are built from configurations that differ in the texts of their passwords, and the same
is asked of both.

* `Manager.act`       an operation with its answer; it is what `Manager.perform` does;
* `Driven`            two runs side by side, on networks that answer alike;
* `Driven.twin`       their worlds are twins;
* `Config.SameShown`    what two configurations show is the same;
* `Manager.SameShown`   what two clients answer, show and do is the same, but for the passwords of
                        the binds;
* `Config.Twin.hides_passwords`   this is so for twin configurations, in every pair of runs.
-/

namespace DirectoryClient

/-! ## Operations and their answers -/

def Operation.Answer : Operation → Type
  | .select _ => Nat
  | .selectForUrl _ => Nat
  | .selectForReferral _ => Except ClientError (Option Nat)
  | .connectServer _ => Option (Except ClientError SessionId)
  | .connection _ => Except ClientError Connection
  | .connectionForUrl _ => Except ClientError Connection
  | .connectionForReferral _ => Except ClientError (Option Connection)
  | .connectionToDefault => Except ClientError Connection
  | .connect => Except ClientError Unit
  | .close => Except ClientError Unit
  | @Operation.search O _ _ _ _ _ _ _ _ _ _ => Option (Except ClientError Unit) × Progress O

/-- connects the server at a position, if there is one -/
def Manager.connectAt {N : Type} (m : Manager N) (i : Nat) :
    Act N (Option (Except ClientError SessionId)) := fun w =>
  if i < w.registry.size then (some <$> m.connectServer i) w else (none, w)

/-- An operation with its answer; for a search this is how far it has come as well. -/
def Manager.act {N : Type} (m : Manager N) : (op : Operation) → Act N op.Answer
  | .select d => Manager.select d
  | .selectForUrl url => m.selectForUrl url
  | .selectForReferral r => m.selectForReferral r
  | .connectServer i => m.connectAt i
  | .connection d => m.connection d
  | .connectionForUrl url => m.connectionForUrl url
  | .connectionForReferral r => m.connectionForReferral r
  | .connectionToDefault => m.connectionToDefault
  | .connect => m.connect
  | .close => m.close
  | .search options classifier consumer conn p base filter scope attributes fuel =>
    (m.searching options classifier consumer conn).run base filter scope attributes fuel p

theorem Manager.perform_eq {N : Type} (m : Manager N) (op : Operation) (w : World N) :
    m.perform op w = (m.act op w).2 := by
  cases op with
  | connectServer i =>
    show (if i < w.registry.size then (m.connectServer i w).2 else w) = (m.connectAt i w).2
    rw [connectAt]
    split <;> rfl
  | _ => rfl

section
variable {N N' : Type} {P : String → String → Prop} {R : N → N' → Prop}

namespace Manager

theorem Twin.connectAt {m : Manager N} {m' : Manager N'} (h : Manager.Twin P R m m') (i : Nat) :
    Act.Agree P R Eq (m.connectAt i) (m'.connectAt i) := by
  intro w w' hw
  rw [Manager.connectAt, Manager.connectAt, hw.registry.size]
  by_cases hi : i < w'.registry.size
  · obtain ⟨ha, hw⟩ := h.connectServer i w w' hw
    rw [if_pos hi, if_pos hi]
    exact ⟨congrArg some ha, hw⟩
  · rw [if_neg hi, if_neg hi]
    exact ⟨rfl, hw⟩

theorem Twin.act {m : Manager N} {m' : Manager N'} (h : Manager.Twin P R m m') (op : Operation) :
    Act.Agree P R Eq (m.act op) (m'.act op) := by
  cases op with
  | select d => exact agree_select d
  | selectForUrl url => exact h.selectForUrl url
  | selectForReferral r => exact h.selectForReferral r
  | connectServer i => exact h.connectAt i
  | connection d => exact h.connection d
  | connectionForUrl url => exact h.connectionForUrl url
  | connectionForReferral r => exact h.connectionForReferral r
  | connectionToDefault => exact h.connectTo 0
  | connect => exact h.connect
  | close => exact h.close
  | search options classifier consumer conn p base filter scope attributes fuel =>
    have hs : Search.Twin P R (m.searching options classifier consumer conn)
        (m'.searching options classifier consumer conn) := ⟨h, rfl, rfl, rfl, rfl⟩
    exact hs.run base filter scope attributes fuel p

/-! ## Two runs -/

/-- The same operations on two managers, with the same chance.  In between the networks may drift,
as long as they stay related. -/
inductive Driven (R : N → N' → Prop) (m : Manager N) (m' : Manager N') : World N → World N' → Prop
  | start {registry registry' : Registry} (h : Registry.ofConfig m.schema m.config = .ok registry)
      (h' : Registry.ofConfig m'.schema m'.config = .ok registry') {net : N} {net' : N'}
      (hnet : R net net') (chance : Nat → Nat) :
      Driven R m m' { net, registry, chance } { net := net', registry := registry', chance }
  | perform {w : World N} {w' : World N'} (h : Driven R m m' w w') (op : Operation) :
      Driven R m m' (m.perform op w) (m'.perform op w')
  | drift {w : World N} {w' : World N'} (h : Driven R m m' w w') {net : N} {net' : N'}
      (hnet : R net net') : Driven R m m' { w with net := net } { w' with net := net' }

theorem Driven.twin {m : Manager N} {m' : Manager N'} (h : Manager.Twin P R m m') {w : World N}
    {w' : World N'} (hw : Driven R m m' w w') : World.Twin P R w w' := by
  induction hw with
  | start hr hr' hnet chance =>
    have hregistry : Alike (Registry.Twin P) (Registry.ofConfig m.schema m.config)
        (Registry.ofConfig m'.schema m'.config) := by
      rw [h.schema]
      exact Registry.Twin.ofConfig h.config
    rw [hr, hr'] at hregistry
    cases hregistry with
    | ok hregistry => exact ⟨hnet, hregistry, rfl, rfl, .nil⟩
  | perform _ op ih =>
    rw [perform_eq, perform_eq]
    exact (h.act op _ _ ih).2
  | drift _ hnet ih => exact { ih with net := hnet }

end Manager

/-! ## What is the same -/

/-- Two configurations are valid or not for the same reason, and look the same. -/
structure Config.SameShown (c d : Config) : Prop where
  validate : c.validate = d.validate
  warns : c.warns = d.warns
  redacted : c.redacted = d.redacted
  text : c.inspect.text = d.inspect.text
  serverTexts : c.servers.map (·.inspect.text) = d.servers.map (·.inspect.text)
  options : SearchOptions.ofConfig c = SearchOptions.ofConfig d

/-- Two clients answer alike, look the same, and have done the same; only the secrets of their
servers and the passwords of the binds differ. -/
structure Manager.SameShown (P : String → String → Prop) (m : Manager N) (m' : Manager N')
    (w : World N) (w' : World N') : Prop where
  answers (op : Operation) : (m.act op w).1 = (m'.act op w').1
  isConnected : (m.isConnected w).1 = (m'.isConnected w').1
  events : List.Forall₂ (Event.Twin P) w.events w'.events
  drawn : w.drawn = w'.drawn
  servers : List.Forall₂ (Server.Twin P) w.registry.servers w'.registry.servers
  recordTexts : w.registry.records.map (·.inspect.text) = w'.registry.records.map (·.inspect.text)
  requestTexts : w.registry.records.map (·.bindRequest.inspect.text) =
    w'.registry.records.map (·.bindRequest.inspect.text)
  connectionTexts (c : Connection) : (c.inspect w.registry).text = (c.inspect w'.registry).text
  text : (m.inspect w.registry).text = (m'.inspect w'.registry).text
  dump : w.registry.dump = w'.registry.dump

theorem Config.Twin.sameShown {c d : Config} (h : Config.Twin P c d) : Config.SameShown c d where
  validate := h.validate
  warns := h.warns
  redacted := h.redacted
  text := congrArg Inspection.text h.inspect
  serverTexts := map_eq_of_forall₂ (fun _ _ hst => congrArg Inspection.text hst.inspect) h.servers
  options := h.options

theorem Manager.Twin.sameShown {m : Manager N} {m' : Manager N'} (h : Manager.Twin P R m m')
    {w : World N} {w' : World N'} (hw : World.Twin P R w w') : Manager.SameShown P m m' w w' where
  answers op := (h.act op w w' hw).1
  isConnected := (h.isConnected w w' hw).1
  events := List.rel_reverse hw.log
  drawn := hw.drawn
  servers := hw.registry
  recordTexts := hw.registry.map_records fun _ _ hr => congrArg Inspection.text hr.inspect
  requestTexts :=
    hw.registry.map_records fun _ _ hr => congrArg Inspection.text hr.inspect_bindRequest
  connectionTexts c := by
    rw [Connection.inspect, Connection.inspect, (hw.registry.server c.server).record.text]
  text := congrArg Inspection.text (h.inspect hw.registry)
  dump := hw.registry.dump

/-- **Passwords do not leak.**  Let two configurations differ in the texts of their passwords only.
They are valid for the same reasons and look the same; the same error comes of building their
servers, or the servers differ in their secrets only; and on networks that answer alike both clients
answer, show and do the same in every pair of runs, but for the passwords of the binds. -/
theorem Config.Twin.hides_passwords {c d : Config} (h : Config.Twin P c d) :
    Config.SameShown c d ∧
      ∀ schema : Schema,
        Alike (Registry.Twin P) (Registry.ofConfig schema c) (Registry.ofConfig schema d) ∧
          ∀ (N N' : Type) (R : N → N' → Prop) (classifier : Classifier) (t : Transport N)
            (t' : Transport N'), t.Agrees P R t' → ∀ (w : World N) (w' : World N'),
            Manager.Driven R ⟨c, schema, classifier, t⟩ ⟨d, schema, classifier, t'⟩ w w' →
              Manager.SameShown P ⟨c, schema, classifier, t⟩ ⟨d, schema, classifier, t'⟩ w w' := by
  refine ⟨h.sameShown, fun schema => ⟨Registry.Twin.ofConfig h, ?_⟩⟩
  intro N N' R classifier t t' ht w w' hw
  have htwin : Manager.Twin P R ⟨c, schema, classifier, t⟩ ⟨d, schema, classifier, t'⟩ :=
    ⟨h, rfl, rfl, ht⟩
  exact htwin.sameShown (Manager.Driven.twin htwin hw)

end

namespace Scripted

/-- Any other password is refused. -/
def checkedBind (password : String) (s : SessionId) (q : BindRequest) (n : Network) :
    Except Failure LdapResult × Network :=
  if q.password = password then Network.bind s q n
  else (.ok { code := ResultCode.invalidCredentials }, n)

/-- a scripted network that takes one password only -/
def knowing (password : String) : Transport Network :=
  { transport with bind := checkedBind password }

/-- Either network takes its own password, and neither takes an empty one. -/
theorem agrees_knowing {p p' : String} (hp : p ≠ "") (hp' : p' ≠ "") :
    (knowing p).Agrees (fun a b => a = p ∧ b = p') Eq (knowing p') where
  connect := by rintro n _ rfl settings; exact ⟨rfl, rfl⟩
  bind := by
    rintro n _ rfl s q q' ⟨-, ⟨hq, hq'⟩ | ⟨hq, hq'⟩⟩
    · show SameAnswer Eq (checkedBind p s q n) (checkedBind p' s q' n)
      rw [checkedBind, checkedBind, if_pos hq, if_pos hq']
      exact ⟨rfl, rfl⟩
    · show SameAnswer Eq (checkedBind p s q n) (checkedBind p' s q' n)
      rw [checkedBind, checkedBind, if_neg (hq ▸ hp.symm), if_neg (hq' ▸ hp'.symm)]
      exact ⟨rfl, rfl⟩
  search := by rintro n _ rfl s request; exact ⟨rfl, rfl⟩
  isConnected := by rintro n _ rfl s; rfl
  close := by rintro n _ rfl s; exact ⟨rfl, rfl⟩
  next := by rintro n _ rfl c; exact ⟨rfl, rfl⟩
  finish := by rintro n _ rfl c; exact ⟨rfl, rfl⟩
  isDone := by rintro n _ rfl c; rfl
  abandon := by rintro n _ rfl c; exact ⟨rfl, rfl⟩
  cancel := by rintro n _ rfl c; rfl

/-- the small client with another password, and a network that takes it -/
def clientOf (password : String) : Manager Network :=
  { client with
    config := { client.config with bindPassword := some password }
    transport := knowing password }

def homeOf (password : String) : Registry :=
  { home with first := { record := { home.first.record with bindSecret := some ⟨password⟩ } } }

/-- the world of that client once it is connected -/
def worldOf (password : String) : World Network :=
  (clientOf password).perform .connectionToDefault
    { net := {}, registry := homeOf password, chance := fun _ => 0 }

theorem twin_clientOf (p p' : String) :
    Config.Twin (fun a b => a = p ∧ b = p') (clientOf p).config (clientOf p').config :=
  ⟨.some ⟨rfl, rfl⟩, .nil, rfl⟩

theorem ofConfig_clientOf (password : String) :
    Registry.ofConfig (clientOf password).schema (clientOf password).config =
      .ok (homeOf password) := by
  have hvalid : (clientOf "secret").config.validate = .ok () := rfl
  rw [(twin_clientOf "secret" password).validate] at hvalid
  rw [Registry.ofConfig, hvalid]
  rfl

theorem driven_clientOf (p p' : String) :
    Manager.Driven Eq (clientOf p) (clientOf p') (worldOf p) (worldOf p') :=
  .perform (.start (ofConfig_clientOf p) (ofConfig_clientOf p') rfl _) _

/-- Two passwords go out, and nothing else tells the two runs apart. -/
theorem passwords_hidden :
    Config.Twin (fun a b => a = "alpha" ∧ b = "omega") (clientOf "alpha").config
        (clientOf "omega").config ∧
      Event.bind ⟨1⟩ ⟨"cn=reader", "alpha"⟩ (.ok { code := ResultCode.success }) ∈
        (worldOf "alpha").log ∧
      Event.bind ⟨1⟩ ⟨"cn=reader", "omega"⟩ (.ok { code := ResultCode.success }) ∈
        (worldOf "omega").log ∧
      Manager.SameShown (fun a b => a = "alpha" ∧ b = "omega") (clientOf "alpha")
        (clientOf "omega") (worldOf "alpha") (worldOf "omega") := by
  have htwin := twin_clientOf "alpha" "omega"
  refine ⟨htwin, List.mem_of_getElem? (i := 0) rfl, List.mem_of_getElem? (i := 0) rfl, ?_⟩
  exact (Config.Twin.hides_passwords htwin).2 _ |>.2 _ _ _ _ _ _
    (agrees_knowing (by decide) (by decide)) _ _ (driven_clientOf "alpha" "omega")

end Scripted

end DirectoryClient
