import DirectoryClient.Proofs.Run.Secured

/-!
# Which URLs lead to TLS

A look-up compares hosts, ports and base names, but not schemes.  So it is the first of several URLs
that are alike whose scheme counts, and a configured server comes before all of them.

* `Registry.AsksTls`       whether what came first for a URL asks for TLS;
* `record_selectForUrl`    the record that a look-up finds;
* `Settings.url_secure_iff`   the URL that is dialled shows TLS;
* `tls_selectForUrl_iff`   look-ups lead to TLS exactly if what came first asks for it;
* `downgraded_lookup`      a URL that asks for TLS leads to a server without it.
-/

namespace DirectoryClient

/-- Whether TLS is used for a URL, given the configured servers and the URLs that were looked up, the
last one included. -/
def Registry.AsksTls (schema : Schema) (known : List ServerRecord) (urls : List LdapUrl)
    (url : LdapUrl) : Prop :=
  match known.find? (·.covers schema url) with
  | some r => r.security = .tls
  | none => ∃ u, urls.find? (url.alike schema) = some u ∧ u.secure = true

theorem Settings.url_secure_iff (s : Settings) :
    "ldaps".toList <+: s.url.toList ↔ s.security = .tls := by
  rw [url]
  cases s.security with
  | tls => simp [Security.scheme, String.toList_append, List.append_assoc]
  | plain => simp [Security.scheme, String.toList_append, List.append_assoc]
  | startTls => simp [Security.scheme, String.toList_append, List.append_assoc]

theorem ServerRecord.tls_ofReferral_iff {schema : Schema} {template : ServerRecord}
    {url : LdapUrl} : (ofReferral schema template url).security = .tls ↔ url.secure = true := by
  cases hu : url.secure
  · by_cases ht : template.security = .startTls <;> simp [ofReferral, hu, ht]
  · simp [ofReferral, hu]

namespace Manager

variable {N : Type} {m : Manager N} {w : World N} {first : ServerRecord}
  {rest : List ServerRecord}

/-- A look-up finds the configured server that covers the URL first, or else what the first URL of
its kind brought. -/
theorem Grown.record_selectForUrl (h : m.Grown first rest w) (url : LdapUrl) :
    some ((m.selectForUrl url w).2.registry.server (m.selectForUrl url w).1).record =
      ((first :: rest).find? (·.covers m.schema url)).or
        (((w.urls ++ [url]).find? (url.alike m.schema)).map (.ofReferral m.schema first)) := by
  have hfind : (m.selectForUrl url w).2.registry.find? m.schema url =
      some (m.selectForUrl url w).1 := w.registry.find?_enrol m.schema url
  have hrecords := (h.locate url).records
  rw [urls_selectForUrl] at hrecords
  rw [← Registry.find?_records hfind, hrecords, Registry.find?_grown]

theorem Grown.security_selectForUrl_iff (h : m.Grown first rest w) (url : LdapUrl) :
    ((m.selectForUrl url w).2.registry.server (m.selectForUrl url w).1).record.security = .tls ↔
      Registry.AsksTls m.schema (first :: rest) (w.urls ++ [url]) url := by
  have hrecord := h.record_selectForUrl url
  unfold Registry.AsksTls
  cases hk : (first :: rest).find? (·.covers m.schema url) with
  | some x =>
    rw [hk, Option.some_or] at hrecord
    rw [Option.some.inj hrecord]
  | none =>
    rw [hk, Option.none_or] at hrecord
    obtain ⟨u, hu, he⟩ := Option.map_eq_some_iff.mp hrecord.symm
    rw [← he, ServerRecord.tls_ofReferral_iff, hu]
    simp

/-- **A URL leads to TLS exactly if the first configured server that covers it uses TLS or, where no
such server covers it, the first URL like it that was ever looked up asks for TLS.** -/
theorem tls_selectForUrl_iff {drift : N → N → Prop} (hw : m.Reachable drift w) :
    ∃ first rest, ServerRecord.ofConfig m.schema m.config = .ok first ∧
      m.config.servers.mapM (ServerRecord.ofServer m.schema m.config) = .ok rest ∧
      ∀ url r, r = ((m.selectForUrl url w).2.registry.server (m.selectForUrl url w).1).record →
        (r.security = .tls ↔
          Registry.AsksTls m.schema (first :: rest) (w.urls ++ [url]) url) ∧
        ("ldaps".toList <+: (m.settings r).url.toList ↔ r.security = .tls) ∧
        (w.registry.find? m.schema url = none → (r.security = .tls ↔ url.secure = true)) := by
  obtain ⟨first, rest, hfirst, hrest, -, hg⟩ := hw.exists_grown
  refine ⟨first, rest, hfirst, hrest, ?_⟩
  rintro url r rfl
  refine ⟨hg.security_selectForUrl_iff url, (m.settings _).url_secure_iff, fun hn => ?_⟩
  rw [selectForUrl_of_new hn, server_selectForUrl_of_new hn]
  exact ServerRecord.tls_ofReferral_iff

end Manager

namespace Scripted

/-- two URLs of one host and one port, of which the second one asks for TLS -/
def oddPort : LdapUrl := ⟨"ldap://ref.example.com:636/", false, "ref.example.com", 636, ""⟩

def plainlySecure : LdapUrl := ⟨"ldaps://ref.example.com/", true, "ref.example.com", 636, ""⟩

/-- the client after it looked up the first of them -/
def misled : World Network := client.perform (.selectForUrl oddPort) (started {})

theorem reachable_misled (drift : Network → Network → Prop) : client.Reachable drift misled :=
  .perform (reachable_started drift {}) _

theorem parse_plainlySecure : LdapUrl.parse "ldaps://ref.example.com/" = .ok plainlySecure := by
  decide

theorem security_misled :
    ((client.selectForUrl plainlySecure misled).2.registry.server
      (client.selectForUrl plainlySecure misled).1).record.security = .plain := by
  decide

/-- Not every URL that asks for TLS leads to a server that uses it. -/
theorem downgraded_lookup : ¬ ∀ (m : Manager Network) (drift : Network → Network → Prop)
    (w : World Network), m.Reachable drift w → ∀ text url, LdapUrl.parse text = .ok url →
      url.secure = true →
      ((m.selectForUrl url w).2.registry.server (m.selectForUrl url w).1).record.security =
        .tls := by
  intro h
  have htls := h client (fun _ _ => False) misled (reachable_misled _) _ _ parse_plainlySecure rfl
  rw [security_misled] at htls
  cases htls

theorem tls_selectForUrl_iff_misled :
    client.Reachable (fun _ _ => False) misled ∧
      ¬ Registry.AsksTls client.schema [home.first.record] [oddPort, plainlySecure]
        plainlySecure ∧
      (started {}).registry.find? client.schema plainlySecure = none ∧
      ((client.selectForUrl plainlySecure (started {})).2.registry.server
        (client.selectForUrl plainlySecure (started {})).1).record.security = .tls := by
  have hw := reachable_misled fun _ _ => False
  have hnew : (started {}).registry.find? client.schema plainlySecure = none := by decide
  obtain ⟨first, rest, hfirst, hrest, hall⟩ := Manager.tls_selectForUrl_iff hw
  obtain rfl : home.first.record = first := Except.ok.inj hfirst
  obtain rfl : [] = rest := Except.ok.inj hrest
  have hurls : misled.urls = [oddPort] := rfl
  have hmisled := (hall plainlySecure _ rfl).1
  rw [hurls, security_misled] at hmisled
  obtain ⟨_, _, _, _, hstart⟩ :=
    Manager.tls_selectForUrl_iff (reachable_started (fun _ _ => False) {})
  refine ⟨hw, fun hasks => ?_, hnew, ((hstart plainlySecure _ rfl).2.2 hnew).mpr rfl⟩
  cases hmisled.mpr hasks

end Scripted

end DirectoryClient
