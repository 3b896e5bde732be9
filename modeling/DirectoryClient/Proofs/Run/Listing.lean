import DirectoryClient.Proofs.Address
import DirectoryClient.Proofs.Dn.Normal
import DirectoryClient.Proofs.Registry.Listing
import DirectoryClient.Proofs.Run.Scope
import DirectoryClient.Proofs.Url.Hosts

/-!
# The listing of the servers in runs

Nothing keeps line ends out of configured hosts and base contexts, nor out of the base names of
URLs, in which they arrive percent-encoded.

* `Config.IsOneLine`, `LdapUrl.IsOneLine`   what a listing shows of a configuration or of a URL has no
                           line end in it;
* `breaks_ofConfig`, `breaks_ofServer`, `breaks_ofReferral`   the line ends of a server are those of
                           where it comes from;
* `isOneLine_iff_of_parse` the host of a URL that was read has none;
* `listed`                 a listing is plain exactly if no entry and no URL has one;
* `forged_lines`           a referral adds two lines to a listing, one of them with the mark.
-/

namespace DirectoryClient

open DirectoryClient.Text

/-- whether a host and a base context have no line end in them, apart from the blanks around the base
context -/
def ShowsOneLine (host : String) (context : Option String) : Prop :=
  '\n' ∉ host.toList ∧ ∀ text ∈ context, '\n' ∉ trim text.toList

def Config.IsOneLine (c : Config) : Prop :=
  ShowsOneLine c.host c.baseContext ∧ ∀ s ∈ c.servers, ShowsOneLine s.host s.baseContext

/-- A base name that is no distinguished name is not shown. -/
def LdapUrl.IsOneLine (u : LdapUrl) : Prop :=
  '\n' ∉ u.host.toList ∧ ∀ d, Dn.parse u.base = .ok d → '\n' ∉ trim u.base.toList

/-! ## Where the line ends of a server come from -/

/-- the base context that is shown, empty if there is none -/
def contextShown (context : Option Dn) : String := (context.map (·.text)).getD ""

theorem ServerRecord.breaks_eq_zero_iff {x : ServerRecord} : x.breaks = 0 ↔
    '\n' ∉ x.host.toList ∧ '\n' ∉ (contextShown x.baseContext).toList := by
  rw [breaks, Nat.add_eq_zero_iff, List.count_eq_zero, List.count_eq_zero]
  rfl

section
variable {schema : Schema}

/-- A configured context is shown as it was written, without the blanks around it. -/
theorem contextShown_of_contextOf {text : String} {context : Option Dn}
    (h : contextOf schema (some text) = .ok context) : contextShown context = trimmed text := by
  unfold contextOf at h
  dsimp only at h
  split at h
  · next hb =>
    obtain rfl := Except.ok.inj h
    rw [trimmed, trim_eq_nil_iff.mpr hb]
    rfl
  · split at h
    · next d hq =>
      obtain rfl := Except.ok.inj h
      obtain ⟨p, hp, hqualified⟩ := Schema.exists_of_parseQualified hq
      obtain ⟨-, htext, -⟩ := Schema.qualify_cases hqualified
      show d.text = _
      rw [htext, Dn.text_of_parse hp, trimmed, trimmed, String.toList_ofList, trim_trim]
    · cases h

theorem showsOneLine_iff {host : String} {text : Option String} {context : Option Dn}
    (h : contextOf schema text = .ok context) : ShowsOneLine host text ↔
      '\n' ∉ host.toList ∧ '\n' ∉ (contextShown context).toList := by
  refine and_congr_right fun _ => ?_
  cases text with
  | none =>
    obtain rfl := Except.ok.inj h
    exact ⟨fun _ => List.not_mem_nil, nofun⟩
  | some t =>
    rw [contextShown_of_contextOf h, trimmed, String.toList_ofList]
    exact ⟨fun ht => ht t rfl, fun ht _ hs => Option.some.inj hs ▸ ht⟩

theorem breaks_ofConfig {c : Config} {x : ServerRecord}
    (h : ServerRecord.ofConfig schema c = .ok x) :
    x.breaks = 0 ↔ ShowsOneLine c.host c.baseContext := by
  rw [showsOneLine_iff (ServerRecord.contextOf_ofConfig h), ServerRecord.breaks_eq_zero_iff,
    (ServerRecord.host_ofConfig h).1]

theorem breaks_ofServer {c : Config} {s : ServerConfig} {x : ServerRecord}
    (h : ServerRecord.ofServer schema c s = .ok x) :
    x.breaks = 0 ↔ ShowsOneLine s.host s.baseContext := by
  rw [showsOneLine_iff (ServerRecord.contextOf_ofServer h), ServerRecord.breaks_eq_zero_iff,
    (ServerRecord.host_ofServer h).1]

/-- A base name is shown without the blanks around it, whether it can be qualified or not. -/
theorem contextShown_contextOfUrl_of_parse {url : LdapUrl} {d : Dn}
    (h : Dn.parse url.base = .ok d) : contextShown (contextOfUrl schema url) = trimmed url.base := by
  have htext := Dn.text_of_parse h
  by_cases hempty : url.base = ""
  · -- no context, which is shown like one without a text
    rw [contextOfUrl_of_empty hempty, hempty]
    rfl
  · have hdn : url.dn = .ok (some d) := by
      rw [LdapUrl.dn, if_neg fun he => hempty (String.isEmpty_iff.mp he), h]
      rfl
    rw [contextOfUrl, hdn]
    dsimp only
    split
    · next q hq =>
      obtain ⟨-, hkept, -⟩ := Schema.qualify_cases hq
      exact hkept.trans htext
    · exact htext

theorem contextShown_contextOfUrl_of_error {url : LdapUrl} {e : DnError}
    (h : Dn.parse url.base = .error e) : contextShown (contextOfUrl schema url) = "" := by
  have hdn : ∀ d, url.dn ≠ .ok (some d) := by
    intro d hd
    rw [(parse_of_dn hd).2] at h
    cases h
  unfold contextOfUrl
  split
  · next d hd => exact absurd hd (hdn d)
  · rfl

theorem breaks_ofReferral (schema : Schema) (template : ServerRecord) (url : LdapUrl) :
    (ServerRecord.ofReferral schema template url).breaks = 0 ↔ url.IsOneLine := by
  rw [ServerRecord.breaks_eq_zero_iff]
  refine and_congr_right fun _ => ?_
  show '\n' ∉ (contextShown (contextOfUrl schema url)).toList ↔ _
  cases hp : Dn.parse url.base with
  | error e =>
    rw [contextShown_contextOfUrl_of_error hp]
    exact ⟨fun _ _ => nofun, fun _ => List.not_mem_nil⟩
  | ok d =>
    rw [contextShown_contextOfUrl_of_parse hp, trimmed, String.toList_ofList]
    exact ⟨fun h _ _ => h, fun h => h d rfl⟩

end

/-- Of a URL that was read, the base name alone may break a line. -/
theorem LdapUrl.isOneLine_iff_of_parse {text : String} {url : LdapUrl} (h : parse text = .ok url) :
    url.IsOneLine ↔ ∀ d, Dn.parse url.base = .ok d → '\n' ∉ trim url.base.toList := by
  refine and_iff_right fun hn => ?_
  rcases host_of_parse h with ⟨x, hx⟩ | hname
  · rw [hx] at hn
    exact absurd (x.isAddressChar_of_mem_text _ hn) (by decide)
  · exact absurd (hname.chars _ hn) (by decide)

/-! ## Runs -/

namespace Manager

variable {N : Type} {m : Manager N} {w : World N}

/-- The configured servers break no line exactly if no entry of the configuration does. -/
theorem isOneLine_config_iff {first : ServerRecord} {rest : List ServerRecord}
    (hfirst : ServerRecord.ofConfig m.schema m.config = .ok first)
    (hrest : m.config.servers.mapM (ServerRecord.ofServer m.schema m.config) = .ok rest) :
    m.config.IsOneLine ↔ ∀ x ∈ first :: rest, x.breaks = 0 := by
  rw [List.forall_mem_cons, breaks_ofConfig hfirst]
  refine and_congr_right fun _ => ⟨fun h x hx => ?_, fun h s hs => ?_⟩
  · obtain ⟨s, hs, he⟩ := exists_of_mapM hrest x hx
    exact (breaks_ofServer he).mpr (h s hs)
  · obtain ⟨i, hi⟩ := List.mem_iff_getElem?.mp hs
    obtain ⟨x, he, hx⟩ := getElem?_of_mapM hrest hi
    exact (breaks_ofServer he).mp (h x (List.mem_of_getElem? hx))

theorem Reachable.isPlain_iff {drift : N → N → Prop} (hw : m.Reachable drift w) :
    w.registry.IsPlain ↔ m.config.IsOneLine ∧ ∀ i url, m.Brought w i url → url.IsOneLine := by
  obtain ⟨first, rest, hfirst, hrest, -, hg⟩ := hw.exists_grown
  rw [Registry.isPlain_iff, isOneLine_config_iff hfirst hrest]
  constructor
  · refine fun h => ⟨fun x hx => h x ?_, fun i url hb => ?_⟩
    · rw [hg.records]
      exact List.mem_append_left _ hx
    · refine (breaks_ofReferral m.schema w.registry.first.record url).mp ?_
      rw [← hb.2]
      exact h _ (List.mem_map_of_mem (w.registry.server_mem i))
  · rintro ⟨hconf, hurl⟩ x hx
    obtain ⟨i, hi, rfl⟩ := Registry.mem_records_iff.mp hx
    rcases (recorded hw).source i hi with ⟨hno, -⟩ | ⟨url, hb⟩
    · -- no referral brought it, so it is one of those that the configuration lists
      rw [hg.records] at hx
      refine hconf _ ((List.mem_append.mp hx).resolve_right fun hnew => ?_)
      obtain ⟨url, -, he⟩ := List.mem_map.mp hnew
      rw [← he] at hno
      cases hno
    · rw [hb.2]
      exact (breaks_ofReferral _ _ _).mpr (hurl i url hb)

variable (m) in
/-- What the listing of the servers of a world is like. -/
structure Listed (w : World N) : Prop where
  /-- the lines about one server follow those about the one before it -/
  blocks : lines w.registry.dump =
    w.registry.servers.zipIdx.flatMap fun p => lines (Registry.line p.2 p.1)
  /-- as many lines as servers and line ends in hosts and base contexts -/
  length : (lines w.registry.dump).length =
    w.registry.size + (w.registry.records.map ServerRecord.breaks).sum
  /-- one numbered line for every server, and that of the default server alone with the mark, exactly
  if neither the configuration nor a URL that brought a server has a line end in a host or in a base
  context -/
  isPlain_iff : w.registry.IsPlain ↔
    m.config.IsOneLine ∧ ∀ i url, m.Brought w i url → url.IsOneLine
  /-- for a URL that was read, the base name alone decides -/
  isOneLine_iff : ∀ text url, LdapUrl.parse text = .ok url →
    (url.IsOneLine ↔ ∀ d, Dn.parse url.base = .ok d → '\n' ∉ trim url.base.toList)

/-- **A listing has one numbered line for every server and one mark exactly if no host and no base
context, configured or from a URL, has a line end in it.** -/
theorem listed {drift : N → N → Prop} (hw : m.Reachable drift w) : m.Listed w where
  blocks := w.registry.lines_dump
  length := w.registry.length_lines_dump
  isPlain_iff := hw.isPlain_iff
  isOneLine_iff _ _ := LdapUrl.isOneLine_iff_of_parse

end Manager

namespace Scripted

/-- a URL whose base name holds two line ends, with a mark between them -/
def forging : LdapUrl where
  text := "ldap://ref.example.com/dc=a%0A2:%20b%20DEFAULT%0A3:%20c"
  secure := false
  host := "ref.example.com"
  port := 389
  base := "dc=a\n2: b DEFAULT\n3: c"

theorem parse_forging : LdapUrl.parse forging.text = .ok forging := by decide +kernel

/-- the client after it looked up that URL -/
def forged : World Network := client.perform (.selectForUrl forging) (started {})

theorem reachable_forged (drift : Network → Network → Prop) : client.Reachable drift forged :=
  .perform (reachable_started drift {}) _

theorem dump_forged : forged.registry.dump = "0: ldap://ldap.example.com:389/ (configured) DEFAULT\n" ++
    "1: ldap://ref.example.com:389/dc=a\n2: b DEFAULT\n3: c (referral)" := by
  decide +kernel

/-- Two servers are listed in four lines, and two of these have the mark. -/
theorem forged_lines : client.Reachable (fun _ _ => False) forged ∧
    LdapUrl.parse forging.text = .ok forging ∧ forged.registry.size = 2 ∧
    (lines forged.registry.dump).length = 4 ∧
    (lines forged.registry.dump).countP (" DEFAULT".toList.isSuffixOf ·) = 2 ∧
    ¬ forged.registry.IsPlain := by
  have hsize : forged.registry.size = 2 := by decide +kernel
  have hlength : (lines forged.registry.dump).length = 4 := by
    rw [dump_forged]
    decide +kernel
  have hmarks : (lines forged.registry.dump).countP (" DEFAULT".toList.isSuffixOf ·) = 2 := by
    rw [dump_forged]
    decide +kernel
  refine ⟨reachable_forged _, parse_forging, hsize, hlength, hmarks, fun h => ?_⟩
  have hlen := h.size_eq
  rw [hlength, hsize] at hlen
  cases hlen

theorem listed_forged :
    client.Reachable (fun _ _ => False) forged ∧ client.Brought forged 1 forging ∧
      client.Listed forged ∧ ¬ forged.registry.IsPlain ∧
      client.Reachable (fun _ _ => False) (started {}) ∧ (started {}).registry.IsPlain := by
  have hforged := reachable_forged fun _ _ => False
  have hstarted := reachable_started (fun _ _ => False) {}
  have hbrought : client.Brought forged 1 forging := ⟨List.mem_of_getElem? (i := 0) rfl, rfl⟩
  have hlisted := Manager.listed hforged
  have hbroken : ¬ forging.IsOneLine := by
    intro h
    obtain ⟨d, hd⟩ : ∃ d, Dn.parse forging.base = .ok d :=
      ⟨⟨forging.base, .plain [[⟨"dc", "a\n2: b DEFAULT\n3: c"⟩]]⟩, by decide +kernel⟩
    exact h.2 d hd (by decide +kernel)
  have hconfig : client.config.IsOneLine :=
    ⟨⟨by decide, fun _ ht => by cases ht⟩, List.forall_mem_nil _⟩
  refine ⟨hforged, hbrought, hlisted, fun h => ?_, hstarted, ?_⟩
  · exact hbroken ((hlisted.isPlain_iff.mp h).2 1 forging hbrought)
  · refine (Manager.listed hstarted).isPlain_iff.mpr ⟨hconfig, fun i url hb => ?_⟩
    exact absurd hb.1 List.not_mem_nil

end Scripted

end DirectoryClient
