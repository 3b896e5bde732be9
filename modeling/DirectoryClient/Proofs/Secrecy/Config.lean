import DirectoryClient.Config.Redaction
import DirectoryClient.Config.Validation
import DirectoryClient.Search.Options
import Mathlib.Data.List.Forall2

/-!
# Configurations with other passwords

Two configurations are twins if they are equal but for the texts of their passwords.  A relation
says which passwords may stand for each other; it is `fun _ _ => True` if any two may.

* `ServerConfig.Twin`, `Config.Twin`   the same configuration with other passwords;
* `Twin.redacted`                      twins are the same once they are redacted;
* `Twin.inspect`                       they look the same;
* `Twin.flaw`                          the same is wrong with them.
-/

namespace DirectoryClient

theorem map_eq_of_forall₂ {α β γ : Type} {R : α → β → Prop} {f : α → γ} {g : β → γ}
    (hf : ∀ a b, R a b → f a = g b) {l : List α} {l' : List β} (h : List.Forall₂ R l l') :
    l.map f = l'.map g := by
  induction h with
  | nil => rfl
  | cons hab _ ih => rw [List.map_cons, List.map_cons, hf _ _ hab, ih]

section
variable {P : String → String → Prop}

/-- Equal but for the text of the password, which is there in both or in neither. -/
structure ServerConfig.Twin (P : String → String → Prop) (s t : ServerConfig) : Prop where
  password : Option.Rel P s.bindPassword t.bindPassword
  rest : t = { s with bindPassword := t.bindPassword }

/-- Equal but for the texts of the passwords, the client's own one and those of its servers. -/
structure Config.Twin (P : String → String → Prop) (c d : Config) : Prop where
  password : Option.Rel P c.bindPassword d.bindPassword
  servers : List.Forall₂ (ServerConfig.Twin P) c.servers d.servers
  rest : d = { c with bindPassword := d.bindPassword, servers := d.servers }

theorem redactedPassword_eq {p q : Option String} (h : Option.Rel P p q) :
    redactedPassword p = redactedPassword q := by
  cases h <;> rfl

namespace ServerConfig.Twin

variable {s t : ServerConfig} (h : ServerConfig.Twin P s t)
include h

theorem redacted : s.redacted = t.redacted := by
  rw [ServerConfig.redacted, ServerConfig.redacted, redactedPassword_eq h.password, h.rest]

theorem inspect : s.inspect = t.inspect := by
  rw [← s.inspect_redacted, h.redacted, t.inspect_redacted]

theorem flaw (index : Nat) : s.flaw index = t.flaw index := by
  rw [h.rest]
  rfl

end ServerConfig.Twin

namespace Config.Twin

variable {c d : Config}

theorem serversFlaw {l l' : List ServerConfig} (h : List.Forall₂ (ServerConfig.Twin P) l l')
    (index : Nat) : Config.serversFlaw index l = Config.serversFlaw index l' := by
  induction h generalizing index with
  | nil => rfl
  | cons hst _ ih => rw [Config.serversFlaw, Config.serversFlaw, hst.flaw, ih]

variable (h : Config.Twin P c d)
include h

theorem redacted : c.redacted = d.redacted := by
  have hs : c.servers.map ServerConfig.redacted = d.servers.map ServerConfig.redacted :=
    map_eq_of_forall₂ (fun _ _ hst => hst.redacted) h.servers
  rw [Config.redacted, Config.redacted, redactedPassword_eq h.password, hs, h.rest]

theorem inspect : c.inspect = d.inspect := by
  rw [← c.inspect_redacted, h.redacted, d.inspect_redacted]

theorem flaw : c.flaw = d.flaw := by
  have hs : Config.serversFlaw 0 c.servers = Config.serversFlaw 0 d.servers := serversFlaw h.servers 0
  rw [Config.flaw, Config.flaw, hs, h.rest]

theorem validate : c.validate = d.validate := by
  rw [Config.validate, Config.validate, h.flaw]

theorem warns : c.warns = d.warns := by
  rw [Config.warns, Config.warns, h.flaw, h.rest]

/-- Searches have the same options. -/
theorem options : SearchOptions.ofConfig c = SearchOptions.ofConfig d := by
  rw [h.rest]
  rfl

theorem binaryAttributes : c.binaryAttributes = d.binaryAttributes := by rw [h.rest]

end Config.Twin

end

end DirectoryClient
