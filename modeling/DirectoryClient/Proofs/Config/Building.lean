import DirectoryClient.Proofs.Config.Validation
import DirectoryClient.Proofs.Dn.Equality

/-!
# From a valid configuration to its servers

Validation reads every base context as a name.  Building the servers qualifies it as well, and an
extended name is the one kind of name that cannot be qualified.

* `Config.extendedContexts`   the base contexts that are extended names, the default server's first;
* `Config.context_of_flaw`    validation has read every base context;
* `Schema.exists_qualify`     every name but an extended one is qualified;
* `contextOf_cases`           what becomes of a base context that validation has read;
* `Registry.Lists`            a server for every entry of a configuration, in order;
* `ofConfig_of_validate`      a valid configuration gives its servers, or its first extended context
                              is refused.
-/

namespace DirectoryClient

open DirectoryClient.Text

/-- whether a text begins like an extended name -/
def namesExtended (text : String) : Bool := (trim text.toList).head? == some '<'

def extendedContext? (context : Option String) : Option String := context.filter namesExtended

def Config.extendedContexts (c : Config) : List String :=
  (extendedContext? c.baseContext).toList ++
    c.servers.filterMap fun s => extendedContext? s.baseContext

/-! ## What validation has read -/

theorem parse_of_dnFlaw {field text : String} (h : dnFlaw field text = none) :
    ∃ d, Dn.parse text = .ok d := by
  unfold dnFlaw at h
  cases hp : Dn.parse text with
  | error e => rw [hp] at h; cases h
  | ok d => exact ⟨d, rfl⟩

/-- a base context that can be read as a name, or none -/
def IsRead (context : Option String) : Prop := ∀ text ∈ context, ∃ d, Dn.parse text = .ok d

theorem isRead_of_bind {field : String} {context : Option String}
    (h : context.bind (dnFlaw field) = none) : IsRead context := by
  intro text ht
  obtain rfl : context = some text := ht
  exact parse_of_dnFlaw h

theorem ServerConfig.context_of_flaw {i : Nat} {s : ServerConfig} (h : s.flaw i = none) :
    IsRead s.baseContext := by
  unfold flaw at h
  split at h
  · cases h
  · simp only [Option.orElse_eq_orElse, Option.orElse_eq_or, Option.or_eq_none_iff] at h
    exact isRead_of_bind h.2.1

namespace Config

theorem context_of_serversFlaw {i : Nat} {l : List ServerConfig} (h : serversFlaw i l = none) :
    ∀ s ∈ l, IsRead s.baseContext := by
  induction l generalizing i with
  | nil => exact List.forall_mem_nil _
  | cons a l ih =>
    simp only [serversFlaw, Option.orElse_eq_orElse, Option.orElse_eq_or,
      Option.or_eq_none_iff] at h
    exact List.forall_mem_cons.mpr ⟨ServerConfig.context_of_flaw h.1, ih h.2⟩

theorem context_of_flaw {c : Config} (h : c.flaw = none) :
    IsRead c.baseContext ∧ ∀ s ∈ c.servers, IsRead s.baseContext := by
  unfold flaw at h
  split at h
  · cases h
  · simp only [Option.orElse_eq_orElse, Option.orElse_eq_or, Option.or_eq_none_iff] at h
    exact ⟨isRead_of_bind h.2.2.1, context_of_serversFlaw h.2.2.2⟩

theorem flaw_of_validate {c : Config} (h : c.validate = .ok ()) : c.flaw = none := by
  unfold validate at h
  cases hf : c.flaw with
  | some f => rw [hf] at h; cases h
  | none => rfl

end Config

/-! ## Qualifying what was read -/

section
variable (lower : List Char → List Char)

namespace Schema

theorem isUnknown_of_isType {a : Ava} (h : IsType a.type) :
    (caseIgnore lower).isUnknown a = false := by
  unfold isUnknown
  rw [normalizeType_caseIgnore, shortName_of_isType h]
  rfl

/-- Every name but an extended one is qualified. -/
theorem exists_qualify {text : String} {d : Dn} (hd : Dn.parse text = .ok d)
    (hx : d.isExtended = false) : ∃ q, (caseIgnore lower).qualify d = .ok q := by
  apply (exists_qualify_iff hx).mpr
  intro a ha
  obtain ⟨r, hr, har⟩ := List.mem_flatten.mp ha
  exact isUnknown_of_isType lower ((Dn.isProper_of_parse hd r hr).named a har)

end Schema

end

section
variable {schema : Schema} {text : String}

theorem contextOf_of_blank (hb : blank text = true) : contextOf schema (some text) = .ok none := by
  unfold contextOf
  exact if_pos hb

theorem contextOf_of_parse {d : Dn} (hb : blank text = false) (hd : Dn.parse text = .ok d) :
    contextOf schema (some text) =
      ((schema.qualify d).map some).mapError ConfigFlaw.badBaseContext := by
  have hqualified : schema.parseQualified (trimmed text) = schema.qualify d := by
    unfold Schema.parseQualified
    rw [Dn.parse_trimmed hd]
    rfl
  unfold contextOf
  simp only [hb, Bool.false_eq_true, if_false]
  rw [hqualified]
  cases schema.qualify d <;> rfl

theorem extendedContext?_eq_none (h : namesExtended text = false) :
    extendedContext? (some text) = none := by
  simp only [extendedContext?, Option.filter_some, h, Bool.false_eq_true, if_false]

theorem extendedContext?_eq_some (h : namesExtended text = true) :
    extendedContext? (some text) = some text := by
  simp only [extendedContext?, Option.filter_some, h, if_true]

theorem namesExtended_of_parse {d : Dn} (hd : Dn.parse text = .ok d) :
    namesExtended text = d.isExtended := by
  rw [Bool.eq_iff_iff, Dn.isExtended_iff_of_parse hd]
  exact beq_iff_eq

end

/-- A base context that was read gives a context, unless it is an extended name. -/
theorem contextOf_cases (lower : List Char → List Char) {context : Option String}
    (h : IsRead context) :
    (extendedContext? context = none ∧ ∃ x, contextOf (.caseIgnore lower) context = .ok x) ∨
    ∃ text, extendedContext? context = some text ∧
      contextOf (.caseIgnore lower) context =
        .error (.badBaseContext (.extendedName (trimmed text))) := by
  cases context with
  | none => exact .inl ⟨rfl, none, rfl⟩
  | some text =>
    obtain ⟨d, hd⟩ := h text rfl
    have hext := namesExtended_of_parse hd
    cases hb : blank text with
    | true =>
      have hplain : namesExtended text = false := by
        rw [namesExtended, trim_eq_nil_iff.mpr hb]
        rfl
      exact .inl ⟨extendedContext?_eq_none hplain, none, contextOf_of_blank hb⟩
    | false =>
      have hcontext : contextOf (.caseIgnore lower) (some text) = _ := contextOf_of_parse hb hd
      cases hx : d.isExtended with
      | false =>
        obtain ⟨q, hq⟩ := Schema.exists_qualify lower hd hx
        rw [hq] at hcontext
        exact .inl ⟨extendedContext?_eq_none (hext.trans hx), some q, hcontext⟩
      | true =>
        have herror : (Schema.caseIgnore lower).qualify d = .error (.extendedName d.text) := by
          unfold Schema.qualify
          exact if_pos hx
        rw [herror, Dn.text_of_parse hd] at hcontext
        exact .inr ⟨text, extendedContext?_eq_some (hext.trans hx), hcontext⟩

/-! ## The servers of a valid configuration -/

/-- The default server is built from the configuration itself and each further server from the entry
in its place; none of them has a session. -/
structure Registry.Lists (schema : Schema) (c : Config) (r : Registry) : Prop where
  size : r.size = c.servers.length + 1
  first : ∃ x, ServerRecord.ofConfig schema c = .ok x ∧ r.servers[0]? = some { record := x }
  rest : ∀ (i : Nat) s, c.servers[i]? = some s →
    ∃ x, ServerRecord.ofServer schema c s = .ok x ∧ r.servers[i + 1]? = some { record := x }

namespace Registry

variable {schema : Schema} {c : Config}

theorem lists_of_ofConfig {r : Registry} (h : ofConfig schema c = .ok r) : r.Lists schema c := by
  obtain ⟨-, first, rest, hfirst, hrest, rfl⟩ := ofConfig_cases h
  refine ⟨?_, ⟨first, hfirst, rfl⟩, fun i s hs => ?_⟩
  · have hlen := length_of_mapM hrest
    show (rest.map _).length + 1 = _
    rw [List.length_map, hlen]
  · obtain ⟨x, hx, hi⟩ := getElem?_of_mapM hrest hs
    refine ⟨x, hx, ?_⟩
    show (rest.map _)[i]? = _
    rw [List.getElem?_map, hi]
    rfl

section
variable (hv : c.validate = .ok ())
include hv

theorem ofConfig_eq_ok {first : ServerRecord} {rest : List ServerRecord}
    (hfirst : ServerRecord.ofConfig schema c = .ok first)
    (hrest : c.servers.mapM (ServerRecord.ofServer schema c) = .ok rest) :
    ofConfig schema c = .ok ⟨{ record := first }, rest.map ({ record := · })⟩ := by
  rw [ofConfig, hv, hfirst, hrest]
  rfl

theorem ofConfig_eq_error_of_first {flaw : ConfigFlaw}
    (hfirst : ServerRecord.ofConfig schema c = .error flaw) :
    ofConfig schema c = .error flaw.error := by
  rw [ofConfig, hv, hfirst]
  rfl

theorem ofConfig_eq_error_of_rest {first : ServerRecord} {flaw : ConfigFlaw}
    (hfirst : ServerRecord.ofConfig schema c = .ok first)
    (hrest : c.servers.mapM (ServerRecord.ofServer schema c) = .error flaw) :
    ofConfig schema c = .error flaw.error := by
  rw [ofConfig, hv, hfirst, hrest]
  rfl

end

theorem exists_first {context : Option Dn} (h : contextOf schema c.baseContext = .ok context) :
    ∃ x, ServerRecord.ofConfig schema c = .ok x := by
  rw [ServerRecord.ofConfig, h]
  exact ⟨_, rfl⟩

theorem exists_ofServer {lower : List Char → List Char} {s : ServerConfig}
    (hs : IsRead s.baseContext) (hx : extendedContext? s.baseContext = none) :
    ∃ x, ServerRecord.ofServer (.caseIgnore lower) c s = .ok x := by
  rcases contextOf_cases lower hs with ⟨-, d, hd⟩ | ⟨text, htext, -⟩
  · rw [ServerRecord.ofServer, hd]
    exact ⟨_, rfl⟩
  · rw [hx] at htext
    cases htext

theorem ofServer_of_extended {lower : List Char → List Char} {s : ServerConfig} {text : String}
    (hs : IsRead s.baseContext) (hx : extendedContext? s.baseContext = some text) :
    ServerRecord.ofServer (.caseIgnore lower) c s =
      .error (.badBaseContext (.extendedName (trimmed text))) := by
  rcases contextOf_cases lower hs with ⟨hn, -⟩ | ⟨t, ht, herr⟩
  · rw [hx] at hn
    cases hn
  · obtain rfl := Option.some.inj (ht.symm.trans hx)
    rw [ServerRecord.ofServer, herr]
    rfl

section
variable (lower : List Char → List Char) (hv : c.validate = .ok ())
include hv

/-- The first entry with an extended name is the first that fails. -/
theorem ofConfig_of_extended {text : String} {rest : List String}
    (h : c.extendedContexts = text :: rest) : ofConfig (.caseIgnore lower) c =
      .error (ConfigFlaw.badBaseContext (.extendedName (trimmed text))).error := by
  obtain ⟨hread, hservers⟩ := Config.context_of_flaw (Config.flaw_of_validate hv)
  rcases contextOf_cases lower hread with ⟨hx, d, hd⟩ | ⟨t, hx, ht⟩
  · rw [Config.extendedContexts, hx, Option.toList_none, List.nil_append] at h
    obtain ⟨front, s, back, hsplit, hfront, hs, -⟩ := List.filterMap_eq_cons_iff.mp h
    obtain ⟨x, hfirst⟩ := exists_first hd
    refine ofConfig_eq_error_of_rest hv hfirst ?_
    rw [hsplit]
    refine mapM_eq_error (fun y hy => ?_) ?_
    · exact exists_ofServer (hservers y (by simp [hsplit, hy])) (hfront y hy)
    · exact ofServer_of_extended (hservers s (by simp [hsplit])) hs
  · rw [Config.extendedContexts, hx] at h
    obtain rfl : t = text := (List.cons.inj h).1
    refine ofConfig_eq_error_of_first hv ?_
    rw [ServerRecord.ofConfig, ht]
    rfl

theorem exists_ofConfig (h : c.extendedContexts = []) :
    ∃ r, ofConfig (.caseIgnore lower) c = .ok r := by
  obtain ⟨hread, hservers⟩ := Config.context_of_flaw (Config.flaw_of_validate hv)
  obtain ⟨hfirst, hrest⟩ := List.append_eq_nil_iff.mp h
  rcases contextOf_cases lower hread with ⟨-, d, hd⟩ | ⟨t, ht, -⟩
  · have hall : ∀ s ∈ c.servers, ∃ x, ServerRecord.ofServer (.caseIgnore lower) c s = .ok x :=
      fun s hs => exists_ofServer (hservers s hs) (List.filterMap_eq_nil_iff.mp hrest s hs)
    obtain ⟨rest, hrest⟩ := exists_mapM_eq_ok hall
    obtain ⟨first, hfirst⟩ := exists_first hd
    exact ⟨_, ofConfig_eq_ok hv hfirst hrest⟩
  · rw [ht] at hfirst
    cases hfirst

end

/-- **A valid configuration gives the default server and one server for each of its entries, in
their order, exactly if none of its base contexts is an extended name**; the first one that is gets
refused. -/
theorem ofConfig_of_validate (lower : List Char → List Char) (hv : c.validate = .ok ()) :
    ((∃ r, ofConfig (.caseIgnore lower) c = .ok r) ↔ c.extendedContexts = []) ∧
    (∀ r, ofConfig (.caseIgnore lower) c = .ok r → r.Lists (.caseIgnore lower) c) ∧
    ∀ text rest, c.extendedContexts = text :: rest → ofConfig (.caseIgnore lower) c =
      .error (ConfigFlaw.badBaseContext (.extendedName (trimmed text))).error := by
  refine ⟨⟨?_, exists_ofConfig lower hv⟩, fun r => lists_of_ofConfig, fun text rest hx =>
    ofConfig_of_extended lower hv hx⟩
  rintro ⟨r, hr⟩
  cases hx : c.extendedContexts with
  | nil => rfl
  | cons text rest =>
    rw [ofConfig_of_extended lower hv hx] at hr
    cases hr

/-! ## Two configurations that pass -/

/-- a blank context, one of several assertions with an escape, and an entry without a context -/
def branching : Config where
  host := "ldap.example.com"
  baseContext := some " \t"
  servers :=
    [{ host := "hr.example.com", baseContext := some " CN=a\\2Cb + OU=HR ; dc=example " },
     { host := "spare.example.com" }]

/-- a server whose context is an extended name -/
def opaqueContext : Config where
  host := "ldap.example.com"
  servers := [{ host := "hr.example.com", baseContext := some "<GUID=ab12>" }]

/-- Not every configuration that passes validation gives its servers. -/
theorem valid_but_refused : ¬ ∀ c : Config, c.validate = .ok () →
    ∃ r, ofConfig .standard c = .ok r ∧ r.size = 1 + c.servers.length := by
  intro h
  have hv : opaqueContext.validate = .ok () := by decide
  obtain ⟨r, hr, -⟩ := h opaqueContext hv
  have herror : ofConfig .standard opaqueContext =
      .error (ConfigFlaw.badBaseContext (.extendedName "<GUID=ab12>")).error := by decide
  rw [herror] at hr
  cases hr

theorem ofConfig_of_validate_branching : branching.validate = .ok () ∧
    branching.extendedContexts = [] ∧ ∃ r, ofConfig .standard branching = .ok r ∧ r.size = 3 := by
  have hv : branching.validate = .ok () := by decide
  have hx : branching.extendedContexts = [] := by decide
  obtain ⟨hiff, hlists, -⟩ := ofConfig_of_validate lowercase hv
  obtain ⟨r, hr⟩ := hiff.mpr hx
  exact ⟨hv, hx, r, hr, (hlists r hr).size⟩

end Registry

end DirectoryClient
