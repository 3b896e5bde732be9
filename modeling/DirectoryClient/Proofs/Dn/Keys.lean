import DirectoryClient.Proofs.Dn.Equality

/-!
# Canonical texts as keys

A name may be looked up by its canonical text: two names are the same exactly if their texts are
equal, whatever stands in their values.

* `escapeFrom_injective`          a written value tells the value, with all its blanks;
* `eq_of_intercalate_eq`          texts put together with a separator are told from the whole;
* `avaText_inj`, `rdnText_inj`    the same for assertions and relative names;
* `Dn.IsObtained`                 the names that come from a text, as they are or qualified;
* `same_iff_normalized_eq`        when two of them are the same.
-/

namespace DirectoryClient

open DirectoryClient.Text

/-! ## Values -/

/-- Nothing is trimmed here: the bytes that a written value stands for are all bytes of the
value. -/
theorem escapeFrom_injective : Function.Injective (escapeFrom true) := by
  intro v w h
  have hv := unescapeBytes_escapeFrom true v
  rw [h, unescapeBytes_escapeFrom] at hv
  have hbytes : Utf8.encode w = Utf8.encode v := Option.some.inj hv
  have hread := Utf8.decode_encode v
  rw [← hbytes, Utf8.decode_encode] at hread
  exact (Except.ok.inj hread).symm

/-! ## Lists of texts -/

/-- A map that tells the members of two lists apart tells the lists apart. -/
theorem eq_of_map_eq {α β : Type} {f : α → β} {l l' : List α}
    (hf : ∀ a ∈ l, ∀ b ∈ l', f a = f b → a = b) (h : l.map f = l'.map f) : l = l' := by
  induction l generalizing l' with
  | nil => exact (List.map_eq_nil_iff.mp h.symm).symm
  | cons a l ih =>
    cases l' with
    | nil => cases h
    | cons b l' =>
      obtain ⟨hab, hl⟩ := List.cons.inj h
      have hhead : a = b := hf a List.mem_cons_self b List.mem_cons_self hab
      have htail : l = l' := by
        apply ih _ hl
        intro x hx y hy
        exact hf x (List.mem_cons_of_mem _ hx) y (List.mem_cons_of_mem _ hy)
      rw [hhead, htail]

section
variable {separator : Char → Bool} {c : Char} (hb : c ≠ '\\') (hc : separator c = true)
include hb hc

/-- Sealed texts are told from what they are put together to. -/
theorem eq_of_intercalate_eq {l l' : List (List Char)} (hl : l ≠ []) (hl' : l' ≠ [])
    (hs : ∀ p ∈ l, Sealed separator p) (hs' : ∀ p ∈ l', Sealed separator p)
    (h : [c].intercalate l = [c].intercalate l') : l = l' := by
  have hcut := splitUnescaped_intercalate hb hc hl hs
  rw [h, splitUnescaped_intercalate hb hc hl' hs'] at hcut
  exact (Option.some.inj hcut).symm

/-- The same for the members of lists whose texts are put together. -/
theorem eq_of_intercalate_map_eq {α : Type} {f : α → List Char} {l l' : List α} (hl : l ≠ [])
    (hl' : l' ≠ []) (hs : ∀ a ∈ l, Sealed separator (f a)) (hs' : ∀ a ∈ l', Sealed separator (f a))
    (hf : ∀ a ∈ l, ∀ b ∈ l', f a = f b → a = b)
    (h : [c].intercalate (l.map f) = [c].intercalate (l'.map f)) : l = l' := by
  have hne : l.map f ≠ [] := fun he => hl (List.map_eq_nil_iff.mp he)
  have hne' : l'.map f ≠ [] := fun he => hl' (List.map_eq_nil_iff.mp he)
  have hmap : l.map f = l'.map f :=
    eq_of_intercalate_eq hb hc hne hne' (List.forall_mem_map.mpr hs) (List.forall_mem_map.mpr hs') h
  exact eq_of_map_eq hf hmap

end

namespace Dn

/-! ## Assertions and relative names -/

/-- The first `=` of an assertion ends its type. -/
theorem avaText_inj {a b : Ava} (ha : IsType a.type) (hb : IsType b.type)
    (h : (avaText a).toList = (avaText b).toList) : a = b := by
  have hfree : ∀ {type : String}, IsType type → '=' ∉ type.toList := by
    intro type htype he
    exact absurd (htype.chars '=' he) (by decide)
  have hcut := cutAtEquals_append (hfree ha) (escapeFrom true a.value.toList)
  rw [← toList_avaText, h, toList_avaText, cutAtEquals_append (hfree hb)] at hcut
  obtain ⟨htype, hvalue⟩ := Prod.mk.inj (Option.some.inj hcut)
  have ht : b.type = a.type := String.toList_injective htype
  have hv : b.value = a.value := String.toList_injective (escapeFrom_injective hvalue)
  cases a
  cases b
  cases ht
  cases hv
  rfl

theorem rdnText_inj {r r' : Rdn} (hr : r.IsProper) (hr' : r'.IsProper)
    (h : (rdnText r).toList = (rdnText r').toList) : r = r' := by
  have hsealed : ∀ {r : Rdn}, r.IsProper → ∀ a ∈ r, Sealed separatesAvas (avaText a).toList := by
    intro r hr a ha
    exact sealed_avaText (fun _ => isSpecial_of_separatesAvas) rfl (hr.named a ha)
  rw [toList_rdnText, toList_rdnText] at h
  apply eq_of_intercalate_map_eq (by decide) rfl hr.ne_nil hr'.ne_nil (hsealed hr) (hsealed hr') _ h
  intro a ha b hb
  exact avaText_inj (hr.named a ha) (hr'.named b hb)

theorem rdnText_ne_nil {r : Rdn} (hr : r.IsProper) : (rdnText r).toList ≠ [] := by
  obtain ⟨a, rest, rfl⟩ := List.exists_cons_of_ne_nil hr.ne_nil
  have hne : (avaText a).toList ≠ [] := by
    rw [toList_avaText]
    exact List.append_ne_nil_of_right_ne_nil _ (List.cons_ne_nil _ _)
  rw [toList_rdnText, List.map_cons]
  exact intercalate_cons_ne_nil hne

/-! ## Names -/

/-- Only the name above all others has an empty canonical text. -/
theorem intercalate_rdnText_eq_nil {rdns : List Rdn} (h : ∀ r ∈ rdns, r.IsProper) :
    [','].intercalate (rdns.map fun r => (rdnText r).toList) = [] ↔ rdns = [] := by
  constructor
  · intro he
    cases rdns with
    | nil => rfl
    | cons r rdns =>
      have hne := rdnText_ne_nil (h r List.mem_cons_self)
      exact absurd he (intercalate_cons_ne_nil hne)
  · rintro rfl
    rfl

theorem rdns_eq_of_text_eq {rdns rdns' : List Rdn} (h : ∀ r ∈ rdns, r.IsProper)
    (h' : ∀ r ∈ rdns', r.IsProper)
    (htext : [','].intercalate (rdns.map fun r => (rdnText r).toList) =
      [','].intercalate (rdns'.map fun r => (rdnText r).toList)) : rdns = rdns' := by
  by_cases hnil : rdns = []
  · have hempty := (intercalate_rdnText_eq_nil h).mpr hnil
    rw [htext, intercalate_rdnText_eq_nil h'] at hempty
    rw [hnil, hempty]
  have hnil' : rdns' ≠ [] := by
    intro he
    have hempty := (intercalate_rdnText_eq_nil h').mpr he
    rw [← htext, intercalate_rdnText_eq_nil h] at hempty
    exact hnil hempty
  have hsealed : ∀ r ∈ rdns, Sealed separatesRdns (rdnText r).toList :=
    fun r hr => sealed_rdnText (h r hr)
  have hsealed' : ∀ r ∈ rdns', Sealed separatesRdns (rdnText r).toList :=
    fun r hr => sealed_rdnText (h' r hr)
  apply eq_of_intercalate_map_eq (by decide) rfl hnil hnil' hsealed hsealed' _ htext
  intro r hr r' hr'
  exact rdnText_inj (h r hr) (h' r' hr')

/-- A name that was read from a text, or that a schema made of such a name. -/
inductive IsObtained (schema : Schema) : Dn → Prop
  | parsed {text : String} {d : Dn} (h : Dn.parse text = .ok d) : IsObtained schema d
  | qualified {text : String} {d q : Dn} (h : Dn.parse text = .ok d)
      (hq : schema.qualify d = .ok q) : IsObtained schema q

end Dn

namespace Schema

variable {lower : List Char → List Char}

theorem isProper_of_qualifyRdn {text : String} {r q : Rdn} (hr : r.IsProper)
    (h : (caseIgnore lower).qualifyRdn text r = .ok q) : q.IsProper := by
  obtain ⟨avas, hm, rfl⟩ := qualifyRdn_cases h
  constructor
  · intro hnil
    have hlength := length_of_mapM hm
    rw [← List.length_mergeSort avas, hnil] at hlength
    exact hr.ne_nil (List.length_eq_zero_iff.mp hlength.symm)
  · intro b hb
    obtain ⟨a, ha, hab⟩ := exists_of_mapM hm b (List.mem_mergeSort.mp hb)
    obtain ⟨type, htype, rfl⟩ := qualifyAva_cases hab
    rw [normalizeType_caseIgnore] at htype
    exact (shortName_shortName (hr.named a ha) htype).1

theorem isProper_of_isObtained {d : Dn} (h : d.IsObtained (caseIgnore lower)) :
    ∀ r ∈ d.rdns, r.IsProper := by
  cases h with
  | parsed h => exact Dn.isProper_of_parse h
  | @qualified text d q h hq =>
    obtain ⟨-, hrdns⟩ := rdns_of_qualify hq
    intro r' hr'
    obtain ⟨r, hr, hrr⟩ := exists_of_mapM (mapM_eq_ok_iff.mpr hrdns) r' hr'
    exact isProper_of_qualifyRdn (Dn.isProper_of_parse h r hr) hrr

/-- **Two names that are not extended are the same exactly if their canonical texts are equal**,
whether they were qualified or not. -/
theorem same_iff_normalized_eq {a b : Dn} (ha : a.IsObtained (caseIgnore lower))
    (hb : b.IsObtained (caseIgnore lower)) (hxa : a.isExtended = false)
    (hxb : b.isExtended = false) : a.same b = true ↔ a.normalized = b.normalized := by
  rw [Dn.same_iff_of_not_isExtended hxa hxb]
  constructor
  · intro hrdns
    rw [Dn.normalized_of_not_isExtended hxa, Dn.normalized_of_not_isExtended hxb, hrdns]
  · intro htext
    have hlist := congrArg String.toList htext
    rw [Dn.toList_normalized hxa, Dn.toList_normalized hxb] at hlist
    exact Dn.rdns_eq_of_text_eq (isProper_of_isObtained ha) (isProper_of_isObtained hb) hlist

/-- one assertion whose value looks like two -/
def lookalike : Dn := ⟨"cn=a\\+b\\=#c,dc=x", .plain [[⟨"cn", "a+b=#c"⟩], [⟨"dc", "x"⟩]]⟩

/-- the same name in other words, qualified -/
def reworded : Dn :=
  ⟨"CN= A\\2BB\\=\\23C , 0.9.2342.19200300.100.1.25=X",
    .qualified [[⟨"cn", "a+b=#c"⟩], [⟨"dc", "x"⟩]]⟩

/-- two assertions -/
def twofold : Dn := ⟨"cn=a+b=\\#c,dc=x", .plain [[⟨"cn", "a"⟩, ⟨"b", "#c"⟩], [⟨"dc", "x"⟩]]⟩

theorem same_iff_normalized_eq_lookalike :
    lookalike.IsObtained standard ∧ reworded.IsObtained standard ∧ twofold.IsObtained standard ∧
      (lookalike.same reworded = true ↔ lookalike.normalized = reworded.normalized) ∧
      (lookalike.same twofold = true ↔ lookalike.normalized = twofold.normalized) ∧
      lookalike.normalized = reworded.normalized ∧ lookalike.normalized ≠ twofold.normalized := by
  have hlook : lookalike.IsObtained standard := by
    have hread : Dn.parse lookalike.text = .ok lookalike := by decide +kernel
    exact .parsed hread
  have htwo : twofold.IsObtained standard := by
    have hread : Dn.parse twofold.text = .ok twofold := by decide +kernel
    exact .parsed hread
  have hwords : reworded.IsObtained standard := by
    have hread : standard.parseQualified reworded.text = .ok reworded := by decide +kernel
    obtain ⟨d, hd, hq⟩ := exists_of_parseQualified hread
    exact .qualified hd hq
  have hsame : lookalike.same reworded = true ↔ lookalike.normalized = reworded.normalized :=
    same_iff_normalized_eq hlook hwords rfl rfl
  have hother : lookalike.same twofold = true ↔ lookalike.normalized = twofold.normalized :=
    same_iff_normalized_eq hlook htwo rfl rfl
  refine ⟨hlook, hwords, htwo, hsame, hother, hsame.mp (by decide), ?_⟩
  intro he
  exact absurd (hother.mpr he) (by decide)

end Schema

end DirectoryClient
