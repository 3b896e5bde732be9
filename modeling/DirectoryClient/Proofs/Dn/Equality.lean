import DirectoryClient.Proofs.Dn.Normal
import Mathlib.Data.Multiset.Basic

/-!
# When qualified names are the same

* `Ava.mergeSort_eq_iff`        lists of assertions are put in the same order exactly if they have
                                the same members;
* `Schema.pairs`                what a schema makes of the assertions of a relative name;
* `same_qualify_iff`            qualified names are the same exactly if these agree in every place;
* `qualify_of_perm`             the order of the assertions does not matter;
* `qualify_eq_error_iff`        qualifying fails at the first type that the schema does not know.
-/

namespace DirectoryClient

theorem Ava.mergeSort_eq_iff {r r' : Rdn} :
    r.mergeSort Ava.le = r'.mergeSort Ava.le ↔ r.Perm r' := by
  constructor
  · intro h
    have hr := List.mergeSort_perm r Ava.le
    rw [h] at hr
    exact hr.symm.trans (List.mergeSort_perm r' Ava.le)
  · intro h
    have hr := (List.mergeSort_perm r Ava.le).trans (h.trans (List.mergeSort_perm r' Ava.le).symm)
    apply hr.eq_of_pairwise (fun a b _ _ => Ava.antisymm)
    · exact List.pairwise_mergeSort Ava.trans Ava.total r
    · exact List.pairwise_mergeSort Ava.trans Ava.total r'

namespace Schema

variable {s : Schema} {text text' : String}

/-! ## Assertions without their order -/

variable (s) in
/-- the canonical type of an assertion and its value in the form for that type; none if the type is
unknown -/
def pair (a : Ava) : Option (String × String) :=
  (s.normalizeType a.type).map fun type => (type, s.normalizeValue type a.value)

variable (s) in
/-- what the schema makes of the assertions of a relative name -/
def pairs (r : Rdn) : Multiset (Option (String × String)) := (r.map s.pair : List _)

theorem pair_of_qualifyAva {a b : Ava} (h : s.qualifyAva text a = .ok b) :
    s.pair a = some (b.type, b.value) := by
  obtain ⟨type, htype, rfl⟩ := qualifyAva_cases h
  unfold pair
  rw [htype]
  rfl

theorem map_pair_of_mapM {r avas : Rdn} (h : r.mapM (s.qualifyAva text) = .ok avas) :
    r.map s.pair = avas.map fun b => some (b.type, b.value) := by
  induction mapM_eq_ok_iff.mp h with
  | nil => rfl
  | cons ha hr ih =>
    rw [List.map_cons, List.map_cons, pair_of_qualifyAva ha, ih (mapM_eq_ok_iff.mpr hr)]

theorem some_pair_injective : Function.Injective fun b : Ava => some (b.type, b.value) := by
  intro a b h
  obtain ⟨htype, hvalue⟩ := Prod.mk.inj (Option.some.inj h)
  cases a
  cases b
  cases htype
  cases hvalue
  rfl

/-- Qualified relative names are equal exactly if the same was made of their assertions. -/
theorem qualifyRdn_eq_iff {r r' q q' : Rdn} (h : s.qualifyRdn text r = .ok q)
    (h' : s.qualifyRdn text' r' = .ok q') : q = q' ↔ s.pairs r = s.pairs r' := by
  obtain ⟨avas, hm, rfl⟩ := qualifyRdn_cases h
  obtain ⟨avas', hm', rfl⟩ := qualifyRdn_cases h'
  unfold pairs
  rw [Ava.mergeSort_eq_iff, Multiset.coe_eq_coe, map_pair_of_mapM hm, map_pair_of_mapM hm',
    List.map_perm_map_iff some_pair_injective]

theorem forall₂_pairs_iff {l l' q q' : List Rdn}
    (h : List.Forall₂ (fun r q => s.qualifyRdn text r = .ok q) l q)
    (h' : List.Forall₂ (fun r q => s.qualifyRdn text' r = .ok q) l' q') :
    q = q' ↔ List.Forall₂ (fun r r' => s.pairs r = s.pairs r') l l' := by
  induction h generalizing l' q' with
  | nil =>
    cases h' with
    | nil => exact iff_of_true rfl .nil
    | cons => exact iff_of_false nofun nofun
  | cons hr hl ih =>
    cases h' with
    | nil => exact iff_of_false nofun nofun
    | cons hr' hl' =>
      rw [List.cons_eq_cons, List.forall₂_cons, qualifyRdn_eq_iff hr hr', ih hl']

theorem rdns_of_qualify {d q : Dn} (h : s.qualify d = .ok q) :
    q.isExtended = false ∧
      List.Forall₂ (fun r q => s.qualifyRdn d.text r = .ok q) d.rdns q.rdns := by
  obtain ⟨-, -, rdns, hform, hm⟩ := qualify_cases h
  have hrdns : q.rdns = rdns := by rw [Dn.rdns, hform]
  have hx : q.isExtended = false := by
    rw [Dn.isExtended, hform]
    rfl
  rw [hrdns]
  exact ⟨hx, mapM_eq_ok_iff.mp hm⟩

/-- Qualified names are the same exactly if the same was made of their relative names. -/
theorem same_qualify_iff {d d' q q' : Dn} (h : s.qualify d = .ok q) (h' : s.qualify d' = .ok q') :
    q.same q' = true ↔ List.Forall₂ (fun r r' => s.pairs r = s.pairs r') d.rdns d'.rdns := by
  obtain ⟨hx, hrdns⟩ := rdns_of_qualify h
  obtain ⟨hx', hrdns'⟩ := rdns_of_qualify h'
  rw [Dn.same_iff_of_not_isExtended hx hx']
  exact forall₂_pairs_iff hrdns hrdns'

/-! ## Unknown types -/

variable (s) in
/-- whether the schema does not know the type of an assertion -/
def isUnknown (a : Ava) : Bool := (s.normalizeType a.type).isNone

theorem qualifyAva_of_unknown {a : Ava} (h : s.isUnknown a = true) (text : String) :
    s.qualifyAva text a = .error (.unknownType text a.type) := by
  unfold isUnknown at h
  unfold qualifyAva
  rw [Option.isNone_iff_eq_none.mp h]

theorem exists_qualifyAva_iff {a : Ava} :
    (∃ b, s.qualifyAva text a = .ok b) ↔ s.isUnknown a = false := by
  constructor
  · rintro ⟨b, hb⟩
    apply Bool.eq_false_iff.mpr
    intro hunknown
    rw [qualifyAva_of_unknown hunknown] at hb
    cases hb
  · intro h
    unfold isUnknown at h
    obtain ⟨type, htype⟩ := Option.isSome_iff_exists.mp (Option.isNone_eq_false_iff.mp h)
    unfold qualifyAva
    rw [htype]
    exact ⟨_, rfl⟩

theorem exists_qualifyRdn_iff {r : Rdn} :
    (∃ q, s.qualifyRdn text r = .ok q) ↔ ∀ a ∈ r, s.isUnknown a = false := by
  constructor
  · rintro ⟨q, hq⟩ a ha
    obtain ⟨avas, hm, -⟩ := qualifyRdn_cases hq
    exact exists_qualifyAva_iff.mp (exists_of_mem_mapM hm a ha)
  · intro h
    have hall : ∀ a ∈ r, ∃ b, s.qualifyAva text a = .ok b :=
      fun a ha => exists_qualifyAva_iff.mpr (h a ha)
    obtain ⟨avas, hm⟩ := exists_mapM_eq_ok hall
    unfold qualifyRdn
    rw [hm]
    exact ⟨_, rfl⟩

/-- A relative name is not qualified because of the first of its types that is unknown. -/
theorem find?_of_qualifyRdn {r : Rdn} {e : DnError} (h : s.qualifyRdn text r = .error e) :
    ∃ a, r.find? s.isUnknown = some a ∧ e = .unknownType text a.type := by
  have hm : r.mapM (s.qualifyAva text) = .error e := by
    unfold qualifyRdn at h
    cases hm : r.mapM (s.qualifyAva text) with
    | ok avas =>
      rw [hm] at h
      cases h
    | error e' =>
      rw [hm] at h
      exact congrArg _ (Except.error.inj h)
  obtain ⟨front, a, back, rfl, hfront, ha⟩ := exists_of_mapM_eq_error hm
  have hunknown : s.isUnknown a = true := by
    by_contra hknown
    have hok : ∃ b, s.qualifyAva text a = .ok b :=
      exists_qualifyAva_iff.mpr (Bool.eq_false_iff.mpr hknown)
    obtain ⟨b, hb⟩ := hok
    rw [hb] at ha
    cases ha
  refine ⟨a, List.find?_eq_some_iff_append.mpr ⟨hunknown, front, back, rfl, ?_⟩, ?_⟩
  · intro b hb
    rw [exists_qualifyAva_iff.mp (hfront b hb)]
    rfl
  · rw [qualifyAva_of_unknown hunknown] at ha
    exact (Except.error.inj ha).symm

/-! ## Whole names -/

section
variable {d : Dn} (hx : d.isExtended = false)
include hx

theorem qualify_eq :
    s.qualify d = (d.rdns.mapM (s.qualifyRdn d.text)).map fun rdns => ⟨d.text, .qualified rdns⟩ :=
  if_neg (Bool.eq_false_iff.mp hx)

theorem exists_qualify_iff :
    (∃ q, s.qualify d = .ok q) ↔ ∀ a ∈ d.rdns.flatten, s.isUnknown a = false := by
  have hrdns : (∀ a ∈ d.rdns.flatten, s.isUnknown a = false) ↔
      ∀ r ∈ d.rdns, ∃ q, s.qualifyRdn d.text r = .ok q := by
    simp only [exists_qualifyRdn_iff, List.forall_mem_flatten]
  rw [hrdns, qualify_eq hx]
  constructor
  · rintro ⟨q, hq⟩
    cases hm : d.rdns.mapM (s.qualifyRdn d.text) with
    | error e =>
      rw [hm] at hq
      cases hq
    | ok rdns => exact exists_of_mem_mapM hm
  · intro h
    obtain ⟨rdns, hm⟩ := exists_mapM_eq_ok h
    rw [hm]
    exact ⟨_, rfl⟩

theorem find?_of_qualify {e : DnError} (h : s.qualify d = .error e) :
    ∃ a, d.rdns.flatten.find? s.isUnknown = some a ∧ e = .unknownType d.text a.type := by
  rw [qualify_eq hx] at h
  cases hm : d.rdns.mapM (s.qualifyRdn d.text) with
  | ok rdns =>
    rw [hm] at h
    cases h
  | error e' =>
    rw [hm] at h
    obtain rfl := Except.error.inj h
    obtain ⟨front, r, back, hsplit, hfront, hr⟩ := exists_of_mapM_eq_error hm
    obtain ⟨a, ha, he⟩ := find?_of_qualifyRdn hr
    have hknown : front.flatten.find? s.isUnknown = none := by
      apply List.find?_eq_none.mpr
      intro b hb
      obtain ⟨r, hr, hbr⟩ := List.mem_flatten.mp hb
      exact Bool.eq_false_iff.mp (exists_qualifyRdn_iff.mp (hfront r hr) b hbr)
    refine ⟨a, ?_, he⟩
    rw [hsplit, List.flatten_append, List.flatten_cons, List.find?_append, hknown, Option.none_or,
      List.find?_append, ha, Option.some_or]

/-- Qualifying a name that is not extended fails exactly if the schema does not know a type, and
tells of the first one. -/
theorem qualify_eq_error_iff {e : DnError} : s.qualify d = .error e ↔
    ∃ a, d.rdns.flatten.find? s.isUnknown = some a ∧ e = .unknownType d.text a.type := by
  refine ⟨find?_of_qualify hx, ?_⟩
  rintro ⟨a, ha, rfl⟩
  cases hq : s.qualify d with
  | ok q =>
    have hknown := (exists_qualify_iff hx).mp ⟨q, hq⟩ a (List.mem_of_find?_eq_some ha)
    rw [List.find?_some ha] at hknown
    cases hknown
  | error e =>
    obtain ⟨b, hb, rfl⟩ := find?_of_qualify hx hq
    rw [ha] at hb
    obtain rfl := Option.some.inj hb
    rfl

end

/-- The order of the assertions of a relative name does not matter. -/
theorem qualify_of_perm {d d' q : Dn} (hx : d'.isExtended = false)
    (hperm : List.Forall₂ List.Perm d.rdns d'.rdns) (h : s.qualify d = .ok q) :
    s.qualify d' = .ok ⟨d'.text, q.form⟩ := by
  have hsame : d.rdns.flatten.Perm d'.rdns.flatten := List.Perm.flatten_congr hperm
  obtain ⟨hdx, -, rdns, hform, -⟩ := qualify_cases h
  obtain ⟨q', hq'⟩ : ∃ q', s.qualify d' = .ok q' := by
    apply (exists_qualify_iff hx).mpr
    intro a ha
    exact (exists_qualify_iff hdx).mp ⟨q, h⟩ a (hsame.mem_iff.mpr ha)
  obtain ⟨-, htext, rdns', hform', -⟩ := qualify_cases hq'
  have hpairs : List.Forall₂ (fun r r' => s.pairs r = s.pairs r') d.rdns d'.rdns :=
    hperm.imp fun r r' hr => Multiset.coe_eq_coe.mpr (hr.map s.pair)
  have hrdns : q.rdns = q'.rdns := Dn.rdns_of_same ((same_qualify_iff h hq').mpr hpairs)
  have hform_eq : q.form = q'.form := by
    rw [Dn.rdns, Dn.rdns, hform, hform'] at hrdns
    rw [hform, hform']
    exact congrArg Dn.Form.qualified hrdns
  rw [hq', hform_eq, ← htext]

/-- **Qualified names are the same exactly if in every place the schema makes the same assertions
of both**, in whatever order they were written.  Qualifying a name that is not extended fails exactly
at the first type that the schema does not know. -/
theorem qualified_equality (s : Schema) :
    (∀ d d' q q' : Dn, s.qualify d = .ok q → s.qualify d' = .ok q' →
      (q.same q' = true ↔ List.Forall₂ (fun r r' => s.pairs r = s.pairs r') d.rdns d'.rdns)) ∧
    (∀ d d' q : Dn, d'.isExtended = false → List.Forall₂ List.Perm d.rdns d'.rdns →
      s.qualify d = .ok q → s.qualify d' = .ok ⟨d'.text, q.form⟩) ∧
    (∀ (d : Dn) (e : DnError), d.isExtended = false → (s.qualify d = .error e ↔
      ∃ a, d.rdns.flatten.find? s.isUnknown = some a ∧ e = .unknownType d.text a.type)) := by
  refine ⟨?_, ?_, ?_⟩
  · intro d d' q q' h h'
    exact same_qualify_iff h h'
  · intro d d' q hx hperm h
    exact qualify_of_perm hx hperm h
  · intro d e hx
    exact qualify_eq_error_iff hx

/-- two assertions in one relative name -/
def mixed : Dn := ⟨"CN=Ann+OU=X,DC=a", .plain [[⟨"CN", "Ann"⟩, ⟨"OU", "X"⟩], [⟨"DC", "a"⟩]]⟩

/-- the same assertions the other way round -/
def swapped : Dn := ⟨"OU=X+CN=Ann,DC=a", .plain [[⟨"OU", "X"⟩, ⟨"CN", "Ann"⟩], [⟨"DC", "a"⟩]]⟩

/-- the same by other names -/
def renamed : Dn :=
  ⟨"2.5.4.11=x+commonName=ANN,dc=A",
    .plain [[⟨"2.5.4.11", "x"⟩, ⟨"commonName", "ANN"⟩], [⟨"dc", "A"⟩]]⟩

theorem qualified_equality_mixed :
    (∃ q q', standard.qualify mixed = .ok q ∧ standard.qualify renamed = .ok q' ∧
      q.same q' = true) ∧
    (∃ q, standard.qualify mixed = .ok q ∧
      standard.qualify swapped = .ok ⟨swapped.text, q.form⟩) ∧
    (ofNames [("cn", "cn")]).qualify mixed = .error (.unknownType mixed.text "OU") := by
  obtain ⟨q, hq⟩ : ∃ q, standard.qualify mixed = .ok q :=
    (exists_qualify_iff rfl).mpr (by decide)
  obtain ⟨q', hq'⟩ : ∃ q', standard.qualify renamed = .ok q' :=
    (exists_qualify_iff rfl).mpr (by decide)
  obtain ⟨hsame, hperm, -⟩ := qualified_equality standard
  obtain ⟨-, -, hunknown⟩ := qualified_equality (ofNames [("cn", "cn")])
  refine ⟨⟨q, q', hq, hq', (hsame _ _ _ _ hq hq').mpr (.cons ?_ (.cons ?_ .nil))⟩, ⟨q, hq, ?_⟩, ?_⟩
  · decide
  · decide
  · exact hperm _ _ _ rfl (.cons (.swap _ _ _) (.cons (.refl _) .nil)) hq
  · exact (hunknown _ _ rfl).mpr ⟨⟨"OU", "X"⟩, by decide, rfl⟩

end Schema

end DirectoryClient
