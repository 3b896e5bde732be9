import DirectoryClient.Proofs.Dn.Reading
import DirectoryClient.Proofs.Run.Growth

/-!
# Which names referrals get

A server that a referral names answers for the names at and below the base name of its URL.  A base
name of nothing but blanks is read as the name above all others, so that such a server answers for
every name that nobody else holds; a URL without a base name brings a server that answers for none.

* `contextOfUrl_of_empty`, `isRoot_of_contextOfUrl`   what a URL says about names;
* `holds_of_mem_answers`       a server that a referral names holds what it answers for;
* `Registry.route_push`        a referral without a base name changes no answer;
* `answers_of_root`            one with a blank base name gets all that nobody holds;
* `referral_scope`             all of this in runs;
* `blank_base_answers`         a referral with a blank base name takes over.
-/

namespace DirectoryClient

open DirectoryClient.Text

/-! ## What a URL says about names -/

section
variable {schema : Schema} {url : LdapUrl} {c : Dn}

theorem contextOfUrl_of_empty (h : url.base = "") : contextOfUrl schema url = none := by
  have hd : url.dn = .ok none := by rw [LdapUrl.dn, h]; rfl
  rw [contextOfUrl, hd]

theorem parse_of_dn {d : Dn} (h : url.dn = .ok (some d)) :
    url.base ≠ "" ∧ Dn.parse url.base = .ok d := by
  unfold LdapUrl.dn at h
  split at h
  · cases h
  · next hb =>
    refine ⟨by simpa using hb, ?_⟩
    cases hp : Dn.parse url.base with
    | error e => rw [hp] at h; cases h
    | ok d' =>
      rw [hp] at h
      exact congrArg Except.ok (Option.some.inj (Except.ok.inj h))

/-- The base name of a URL, qualified if the schema can do so. -/
theorem contextOfUrl_cases (h : contextOfUrl schema url = some c) :
    url.base ≠ "" ∧ ∃ d, Dn.parse url.base = .ok d ∧ (schema.qualify d = .ok c ∨ c = d) := by
  unfold contextOfUrl at h
  split at h
  · next d hd =>
    obtain ⟨hne, hp⟩ := parse_of_dn hd
    refine ⟨hne, d, hp, ?_⟩
    split at h
    · next q hq =>
      obtain rfl := Option.some.inj h
      exact .inl hq
    · exact .inr (Option.some.inj h).symm
  · cases h

theorem isRoot_of_contextOfUrl (h : contextOfUrl schema url = some c) :
    c.isRoot = blank url.base := by
  obtain ⟨-, d, hp, hq | rfl⟩ := contextOfUrl_cases h
  · rw [Schema.isRoot_of_qualify hq, Dn.isRoot_iff_of_parse hp]
  · exact Dn.isRoot_iff_of_parse hp

/-- A blank base name that is not empty is read as the name above all others. -/
theorem exists_contextOfUrl_of_blank (schema : Schema) (hb : blank url.base = true)
    (hne : url.base ≠ "") :
    ∃ c, contextOfUrl schema url = some c ∧ c.isRoot = true := by
  have hd : url.dn = .ok (some .root) := by
    have he : url.base.isEmpty = false := by simpa using hne
    rw [LdapUrl.dn, he, Dn.parse_of_blank hb]
    rfl
  refine ⟨⟨"", .qualified []⟩, ?_, rfl⟩
  rw [contextOfUrl, hd]
  rfl

end

/-! ## Who answers -/

namespace Registry

variable {r : Registry} {x : ServerRecord} {d : Dn}

theorem contexts_push (r : Registry) (x : ServerRecord) :
    (r.push x).contexts = r.contexts ++ x.baseContext.toList := by
  rw [contexts, records_push, List.filterMap_append, contexts]
  cases h : x.baseContext <;> simp [h]

theorem baseContext_mem_contexts {i : Nat} {c : Dn} (hi : i < r.size)
    (hc : (r.server i).record.baseContext = some c) : c ∈ r.contexts :=
  List.mem_filterMap.mpr ⟨_, mem_records_iff.mpr ⟨i, hi, rfl⟩, hc⟩

/-- A referral server without a context is never a candidate, and so changes nothing. -/
theorem candidates_push (hn : x.baseContext = none) (hr : x.isReferral = true) (d : Dn) :
    (r.push x).candidates d = r.candidates d := by
  have hbest : (r.push x).bestContext d = r.bestContext d := by
    rw [bestContext, contexts_push, hn, Option.toList_none, List.append_nil, bestContext]
  have hnew : isCandidate (r.bestContext d) x = false := by
    cases r.bestContext d <;> simp [isCandidate, hn, hr, sameContext]
  rw [candidates, size_push, List.range_succ, List.filter_append, hbest, List.filter_singleton,
    server_push_size, hnew, cond_false, List.append_nil, candidates]
  refine List.filter_congr fun i hi => ?_
  rw [server_push_of_lt x (List.mem_range.mp hi)]

theorem route_push (hn : x.baseContext = none) (hr : x.isReferral = true) (d : Dn) (draw : Nat) :
    (r.push x).route d draw = r.route d draw := by
  rw [route, candidates_push hn hr, route]

/-- The name above all others is the closest context where there is no other. -/
theorem isClosest_push_of_isRoot {c : Dn} (hd : d.isExtended = false)
    (hx : x.baseContext = some c) (hc : c.isRoot = true) (hun : ∀ b ∈ r.contexts, ¬ b.Holds d) :
    (r.push x).IsClosest d c where
  mem := by simp [contexts_push, hx]
  holds := Dn.holds_of_isRoot hd hc
  longest b hb hbd := by
    rw [contexts_push, hx] at hb
    rcases List.mem_append.mp hb with hb | hb
    · exact absurd hbd (hun b hb)
    · rw [List.mem_singleton.mp hb]

/-- The name above all others is held by nothing but itself. -/
theorem isClosest_of_isRoot {c : Dn} (hc : c ∈ r.contexts) (hroot : c.isRoot = true)
    (hd : d.isRoot = true) : r.IsClosest d c := by
  obtain ⟨he, hn⟩ := Dn.isRoot_iff.mp hd
  refine ⟨hc, Dn.holds_of_isRoot he hroot, fun b _ hb => ?_⟩
  have hlen := Dn.length_le_of_holds he hb
  rw [hn] at hlen
  exact Nat.le_trans hlen (Nat.zero_le _)

end Registry

namespace Manager

variable {N : Type} {m : Manager N} {w : World N} {d : Dn} {url : LdapUrl}

theorem lt_size_of_mem_answers {i : Nat} (hi : i ∈ answers d w) : i < w.registry.size := by
  obtain ⟨draw, rfl⟩ := mem_answers_iff.mp hi
  exact Registry.route_lt_size draw

/-- A server that a referral names holds every name that it answers for. -/
theorem holds_of_mem_answers {i : Nat} (hq : d.isQualified = true)
    (hfirst : (w.registry.server 0).record.isReferral = false) (hi : i ∈ answers d w)
    (hr : (w.registry.server i).record.isReferral = true) :
    ∃ c, (w.registry.server i).record.baseContext = some c ∧ c.Holds d := by
  have hd := Dn.isExtended_of_isQualified hq
  by_cases hh : ∃ c ∈ w.registry.contexts, c.Holds d
  · obtain ⟨b, hb⟩ := Registry.exists_isClosest hd hh
    rw [answers_of_isClosest hq hb] at hi
    rcases sameContext_iff.mp hi.2 with ⟨-, hnone⟩ | ⟨c, b', hc, hb', hcb⟩
    · cases hnone
    · obtain rfl := Option.some.inj hb'
      exact ⟨c, hc, hb.holds.of_same hd hcb⟩
  · have hn : ∀ c ∈ w.registry.contexts, ¬ c.Holds d := fun c hc hcd => hh ⟨c, hc, hcd⟩
    -- without a context that holds the name only configured servers answer
    by_cases hu : ∃ i, w.registry.IsUnscoped i
    · rw [answers_of_isUnscoped hq hn hu] at hi
      have ho : (w.registry.server i).record.origin = .configured := hi.2.2
      rw [ServerRecord.isReferral, ho] at hr
      cases hr
    · rw [answers_of_no_server hq hn fun i hi => hu ⟨i, hi⟩, Set.mem_singleton_iff] at hi
      rw [hi, hfirst] at hr
      cases hr

/-- A server that holds all names gets those that nobody held before. -/
theorem answers_of_root (hn : w.registry.find? m.schema url = none)
    (hb : blank url.base = true) (hne : url.base ≠ "") (hq : d.isQualified = true)
    (hun : ∀ c ∈ w.registry.contexts, ¬ c.Holds d) :
    answers d (m.selectForUrl url w).2 = {w.registry.size} := by
  have hd := Dn.isExtended_of_isQualified hq
  obtain ⟨c, hc, hroot⟩ := exists_contextOfUrl_of_blank m.schema hb hne
  have hreg := registry_selectForUrl_of_new hn
  have hclosest : (m.selectForUrl url w).2.registry.IsClosest d c := by
    rw [hreg]
    exact Registry.isClosest_push_of_isRoot hd hc hroot hun
  rw [answers_of_isClosest hq hclosest]
  ext i
  rw [Set.mem_ofPred_eq, Set.mem_singleton_iff, hreg, Registry.size_push]
  constructor
  · rintro ⟨hi, hs⟩
    by_contra hne'
    have hlt : i < w.registry.size := by omega
    rw [Registry.server_push_of_lt _ hlt] at hs
    rcases sameContext_iff.mp hs with ⟨-, h0⟩ | ⟨a, c', ha, hc', hac⟩
    · cases h0
    · obtain rfl := Option.some.inj hc'
      exact hun a (Registry.baseContext_mem_contexts hlt ha) (hclosest.holds.of_same hd hac)
  · rintro rfl
    refine ⟨Nat.lt_succ_self _, ?_⟩
    rw [Registry.server_push_size]
    exact (congrArg (sameContext · (some c)) hc).trans (Dn.same_refl c)

/-- A URL without a base name changes no answer, whether it brings a server or not. -/
theorem route_selectForUrl_of_empty (hb : url.base = "") (d : Dn) (draw : Nat) :
    (m.selectForUrl url w).2.registry.route d draw = w.registry.route d draw := by
  rw [registry_selectForUrl]
  rcases w.registry.enrol_cases m.schema url with ⟨i, -, -, he⟩ | ⟨-, he⟩ <;> rw [he]
  exact Registry.route_push (contextOfUrl_of_empty hb) rfl d draw

theorem Brought.isReferral {i : Nat} (hb : m.Brought w i url) :
    (w.registry.server i).record.isReferral = true := by
  rw [hb.2]
  rfl

theorem Brought.baseContext {i : Nat} (hb : m.Brought w i url) :
    (w.registry.server i).record.baseContext = contextOfUrl m.schema url := by
  rw [hb.2]
  rfl

variable (m) in
/-- Which names the servers that referrals name answer for. -/
structure ReferralScope (w : World N) : Prop where
  /-- only for names at and below the base name of the URL that brought them; that is the name above
  all others if it was blank -/
  holds : ∀ d i, d.isQualified = true → i ∈ answers d w →
    (w.registry.server i).record.isReferral = true → ∃ url c, m.Brought w i url ∧
      contextOfUrl m.schema url = some c ∧ c.Holds d ∧ url.base ≠ "" ∧ c.isRoot = blank url.base
  /-- none answers because of a blank base name exactly if no blank base name brought one -/
  blank_iff : (∀ d i url, d.isQualified = true → i ∈ answers d w → m.Brought w i url →
      blank url.base = false) ↔
    ∀ i < w.registry.size, ∀ url, m.Brought w i url → blank url.base = true → url.base = ""
  /-- looking up a URL without a base name changes no answer -/
  unnamed : ∀ url, url.base = "" → ∀ d draw,
    (m.selectForUrl url w).2.registry.route d draw = w.registry.route d draw
  /-- a new server with a blank base name gets all names that nobody held -/
  catchAll : ∀ url, w.registry.find? m.schema url = none → blank url.base = true →
    url.base ≠ "" → ∀ d, d.isQualified = true → (∀ c ∈ w.registry.contexts, ¬ c.Holds d) →
      answers d (m.selectForUrl url w).2 = {w.registry.size}

theorem blank_iff_of_first
    (hfirst : (w.registry.server 0).record.isReferral = false) :
    (∀ d i url, d.isQualified = true → i ∈ answers d w → m.Brought w i url →
      blank url.base = false) ↔
    ∀ i < w.registry.size, ∀ url, m.Brought w i url → blank url.base = true → url.base = "" := by
  constructor
  · intro h i hi url hbr hb
    by_contra hne
    obtain ⟨c, hc, hroot⟩ := exists_contextOfUrl_of_blank m.schema hb hne
    have hbase := hbr.baseContext.trans hc
    -- the name above all others is answered for by this server
    have hclosest : w.registry.IsClosest ⟨"", .qualified []⟩ c :=
      Registry.isClosest_of_isRoot (Registry.baseContext_mem_contexts hi hbase) hroot rfl
    have hans : i ∈ answers ⟨"", .qualified []⟩ w := by
      rw [answers_of_isClosest rfl hclosest]
      exact ⟨hi, by rw [hbase]; exact Dn.same_refl c⟩
    rw [h _ i url rfl hans hbr] at hb
    cases hb
  · intro h d i url hq hi hbr
    obtain ⟨c, hc, -⟩ := holds_of_mem_answers hq hfirst hi hbr.isReferral
    refine Bool.eq_false_iff.mpr fun hb => ?_
    have hempty := h i (lt_size_of_mem_answers hi) url hbr hb
    rw [hbr.baseContext, contextOfUrl_of_empty hempty] at hc
    cases hc

/-- **A server that a referral names answers for names at and below its base name only; a URL without
a base name changes nothing, but one whose base name is blank takes all that nobody held.** -/
theorem referral_scope {drift : N → N → Prop} (hw : m.Reachable drift w) : m.ReferralScope w := by
  have hr := recorded hw
  have hfirst : (w.registry.server 0).record.isReferral = false := by
    obtain ⟨first, rest, -, -, hconf, hg⟩ := hw.exists_grown
    have h0 : w.registry.first.record = first := (List.cons.inj hg.records).1
    exact (congrArg ServerRecord.isReferral h0).trans (hconf first List.mem_cons_self)
  refine ⟨fun d i hq hi href => ?_, blank_iff_of_first hfirst,
    fun url hb d draw => route_selectForUrl_of_empty hb d draw,
    fun url hn hb hne d hq hun => answers_of_root hn hb hne hq hun⟩
  obtain ⟨c, hc, hcd⟩ := holds_of_mem_answers hq hfirst hi href
  rcases hr.source i (lt_size_of_mem_answers hi) with ⟨hconf, -⟩ | ⟨url, hbr⟩
  · rw [hconf] at href
    cases href
  · have hctx := hbr.baseContext.symm.trans hc
    exact ⟨url, c, hbr, hctx, hcd, (contextOfUrl_cases hctx).1, isRoot_of_contextOfUrl hctx⟩

end Manager

namespace Scripted

/-- the client after a referral whose base name is a blank -/
def overtaken : World Network :=
  client.perform (.selectForReferral ⟨["ldap://ref.example.com/%20"]⟩) (started {})

def blankBase : LdapUrl := ⟨"ldap://ref.example.com/%20", false, "ref.example.com", 389, " "⟩

/-- a name that has nothing to do with the referral -/
def elsewhere : Dn := ⟨"dc=other", .qualified [[⟨"dc", "other"⟩]]⟩

/-- a name below the base name of `branch` -/
def sales : Dn := ⟨"ou=sales,dc=example", .qualified [[⟨"ou", "sales"⟩], [⟨"dc", "example"⟩]]⟩

theorem brought_overtaken : client.Brought overtaken 1 blankBase :=
  ⟨List.mem_of_getElem? (i := 0) rfl, rfl⟩

/-- Not every server that a referral names answers because of a base name that is not blank. -/
theorem blank_base_answers : ¬ ∀ (m : Manager Network) (drift : Network → Network → Prop)
    (w : World Network), m.Reachable drift w → ∀ d i url, d.isQualified = true →
      i ∈ Manager.answers d w → m.Brought w i url → blank url.base = false := by
  intro h
  have hw : client.Reachable (fun _ _ => False) overtaken := .perform (reachable_started _ {}) _
  have hans : 1 ∈ Manager.answers elsewhere overtaken := ⟨fun _ => 0, by decide +kernel⟩
  have hb := h client _ overtaken hw elsewhere 1 blankBase rfl hans brought_overtaken
  have hblank : blank blankBase.base = true := by decide +kernel
  rw [hblank] at hb
  cases hb

theorem referral_scope_consulted :
    client.Reachable (fun _ _ => False) consulted ∧
      1 ∈ Manager.answers sales consulted ∧
      (consulted.registry.server 1).record.isReferral = true ∧
      consulted.registry.find? client.schema blankBase = none ∧
      (∀ c ∈ consulted.registry.contexts, ¬ c.Holds elsewhere) ∧
      client.ReferralScope consulted ∧
      (∃ url c, client.Brought consulted 1 url ∧ contextOfUrl client.schema url = some c ∧
        c.Holds sales ∧ url.base ≠ "" ∧ c.isRoot = blank url.base) ∧
      Manager.answers elsewhere (client.selectForUrl blankBase consulted).2 = {2} := by
  have hw := reachable_consulted fun _ _ => False
  have hscope := Manager.referral_scope hw
  have hans : 1 ∈ Manager.answers sales consulted := ⟨fun _ => 0, by decide +kernel⟩
  have href : (consulted.registry.server 1).record.isReferral = true := by decide +kernel
  have hnew : consulted.registry.find? client.schema blankBase = none := by decide +kernel
  have hblank : blank blankBase.base = true := by decide +kernel
  have hun : ∀ c ∈ consulted.registry.contexts, ¬ c.Holds elsewhere := by
    unfold Dn.Holds
    decide +kernel
  have hcatch := hscope.catchAll blankBase hnew hblank (by decide) elsewhere rfl hun
  rw [show consulted.registry.size = 2 by decide +kernel] at hcatch
  exact ⟨hw, hans, href, hnew, hun, hscope, hscope.holds sales 1 rfl hans href, hcatch⟩

end Scripted

end DirectoryClient
