import DirectoryClient.Proofs.Dn.Order
import DirectoryClient.Proofs.Dn.Writing
import DirectoryClient.Proofs.Text.Casing
import Mathlib.Data.Prod.Lex
import Mathlib.Data.String.Basic

/-!
# Canonical texts of qualified names

* `Ava.le_iff`                      assertions are in lexicographic order;
* `shortName_shortName`             the short name of a type is its own short name;
* `foldValue_foldValue`             a folded value is folded as it is;
* `Schema.IsStable`                 a schema that leaves alone what it has normalised
                                    (`isStable_caseIgnore`);
* `qualifyRdn_qualifyRdn`           such a schema leaves alone the relative names that it has
                                    qualified;
* `normalized_round_trip`           the canonical text of a qualified name is a name for the same.
-/

namespace DirectoryClient

open DirectoryClient.Text

/-! ## The order of assertions -/

namespace Ava

theorem le_iff {a b : Ava} : a.le b = true ↔ toLex (a.type, a.value) ≤ toLex (b.type, b.value) := by
  have h : toLex (a.type, a.value) ≤ toLex (b.type, b.value) ↔
      a.type < b.type ∨ a.type = b.type ∧ a.value ≤ b.value := Prod.Lex.toLex_le_toLex
  rw [h]
  simp [le]

theorem trans (a b c : Ava) (hab : a.le b = true) (hbc : b.le c = true) : a.le c = true :=
  le_iff.mpr ((le_iff.mp hab).trans (le_iff.mp hbc))

theorem total (a b : Ava) : (a.le b || b.le a) = true := by
  rw [Bool.or_eq_true, le_iff, le_iff]
  exact le_total _ _

theorem antisymm {a b : Ava} (hab : a.le b = true) (hba : b.le a = true) : a = b := by
  have h := toLex.injective ((le_iff.mp hab).antisymm (le_iff.mp hba))
  obtain ⟨htype, hvalue⟩ := Prod.mk.inj h
  cases a
  cases b
  cases htype
  cases hvalue
  rfl

theorem mergeSort_mergeSort (r : Rdn) : (r.mergeSort le).mergeSort le = r.mergeSort le :=
  List.mergeSort_of_pairwise (List.pairwise_mergeSort trans total r)

end Ava

namespace Schema

/-! ## Types -/

theorem isType_asciiLowered {type : String} (h : IsType type) : IsType (asciiLowered type) := by
  constructor
  · simpa [asciiLowered, asciiLower] using h.ne_nil
  · rw [asciiLowered, String.toList_ofList]
    exact List.forall_mem_map.mpr fun c hc => (isTypeChar_cases (h.chars c hc)).2.2

theorem shortName_of_isType {type : String} (h : IsType type) :
    shortName type =
      some ((shortNames.lookup (asciiLowered type)).getD (asciiLowered type)) := by
  have htrim : trim type.toList = type.toList :=
    trim_noBlank fun c hc => (isTypeChar_cases (h.chars c hc)).1
  have hempty : ¬ (asciiLowered type).isEmpty = true := by
    rw [String.isEmpty_iff, ← String.toList_eq_nil_iff]
    exact (isType_asciiLowered h).ne_nil
  unfold shortName
  rw [htrim]
  exact if_neg hempty

theorem shortNames_short : (shortNames.all fun p => shortName p.2 == some p.2 &&
    (!p.2.toList.isEmpty && p.2.toList.all isTypeChar)) = true := by
  decide +kernel

/-- **The short name of a type is a type, and its own short name.** -/
theorem shortName_shortName {type short : String} (h : IsType type)
    (hs : shortName type = some short) : IsType short ∧ shortName short = some short := by
  rw [shortName_of_isType h] at hs
  cases hl : shortNames.lookup (asciiLowered type) with
  | some name =>
    rw [hl] at hs
    obtain rfl : name = short := Option.some.inj hs
    obtain ⟨before, after, hmem, -⟩ := List.lookup_eq_some_iff.mp hl
    have hp := List.all_eq_true.mp shortNames_short (asciiLowered type, name) (by simp [hmem])
    simp only [Bool.and_eq_true, beq_iff_eq, Bool.not_eq_true', List.isEmpty_eq_false_iff,
      List.all_eq_true] at hp
    exact ⟨⟨hp.2.1, hp.2.2⟩, hp.1⟩
  | none =>
    rw [hl] at hs
    obtain rfl : asciiLowered type = short := Option.some.inj hs
    refine ⟨isType_asciiLowered h, ?_⟩
    rw [shortName_of_isType (isType_asciiLowered h), asciiLowered_asciiLowered, hl]
    rfl

/-! ## Values -/

variable {lower : List Char → List Char}

theorem spaced_foldValue (hl : Lowering lower) (value : String) :
    Spaced (foldValue lower value).toList := by
  rw [foldValue, String.toList_ofList]
  exact (spaced_words value.toList).of_outline (hl.outline _)

/-- **A folded value is folded as it is.** -/
theorem foldValue_foldValue (hl : Lowering lower) (value : String) :
    foldValue lower (foldValue lower value) = foldValue lower value := by
  have hspaced := spaced_foldValue hl value
  rw [foldValue, hspaced.intercalate_words, foldValue, String.toList_ofList, hl.idem]

/-! ## Qualifying twice -/

/-- A schema that leaves alone what it has normalised, and of which trimming takes nothing away. -/
structure IsStable (schema : Schema) : Prop where
  firm : ∀ text a b, IsType a.type → schema.qualifyAva text a = .ok b → b.IsFirm
  fixed : ∀ text text' a b, IsType a.type → schema.qualifyAva text a = .ok b →
    schema.qualifyAva text' b = .ok b

variable {schema : Schema}

theorem qualifyAva_cases {text : String} {a b : Ava} (h : schema.qualifyAva text a = .ok b) :
    ∃ type, schema.normalizeType a.type = some type ∧
      b = ⟨type, schema.normalizeValue type a.value⟩ := by
  unfold qualifyAva at h
  cases ht : schema.normalizeType a.type with
  | none => rw [ht] at h; cases h
  | some type =>
    rw [ht] at h
    exact ⟨type, rfl, (Except.ok.inj h).symm⟩

theorem qualifyAva_eq_self {text : String} {a : Ava}
    (ht : schema.normalizeType a.type = some a.type)
    (hv : schema.normalizeValue a.type a.value = a.value) : schema.qualifyAva text a = .ok a := by
  rw [qualifyAva, ht]
  dsimp only
  rw [hv]

theorem normalizeType_caseIgnore (lower : List Char → List Char) :
    (caseIgnore lower).normalizeType = shortName := by rw [caseIgnore]

theorem normalizeValue_caseIgnore (lower : List Char → List Char) (type value : String) :
    (caseIgnore lower).normalizeValue type value = foldValue lower value := by rw [caseIgnore]

theorem isStable_caseIgnore (hl : Lowering lower) : IsStable (caseIgnore lower) := by
  have hshort : ∀ (a : Ava) (type : String), IsType a.type → (caseIgnore lower).normalizeType a.type = some type →
      IsType type ∧ (caseIgnore lower).normalizeType type = some type := by
    intro a type ha htype
    rw [normalizeType_caseIgnore] at htype ⊢
    exact shortName_shortName ha htype
  constructor
  · intro text a b ha h
    obtain ⟨type, htype, rfl⟩ := qualifyAva_cases h
    rw [normalizeValue_caseIgnore]
    have hspaced := spaced_foldValue hl a.value
    refine ⟨(hshort a type ha htype).1, fun c hc hb => ?_, fun c hc hb => ?_⟩
    · rw [hspaced.head? c hc] at hb
      cases hb
    · rw [hspaced.getLast? c hc] at hb
      cases hb
  · intro text text' a b ha h
    obtain ⟨type, htype, rfl⟩ := qualifyAva_cases h
    refine qualifyAva_eq_self (hshort a type ha htype).2 ?_
    rw [normalizeValue_caseIgnore, normalizeValue_caseIgnore]
    exact foldValue_foldValue hl a.value

theorem qualifyRdn_cases {text : String} {r r' : Rdn} (h : schema.qualifyRdn text r = .ok r') :
    ∃ avas, r.mapM (schema.qualifyAva text) = .ok avas ∧ r' = avas.mergeSort Ava.le := by
  unfold qualifyRdn at h
  cases hm : r.mapM (schema.qualifyAva text) with
  | error e => rw [hm] at h; cases h
  | ok avas =>
    rw [hm] at h
    exact ⟨avas, rfl, (Except.ok.inj h).symm⟩

/-- A stable schema leaves alone a relative name that it has qualified. -/
theorem qualifyRdn_qualifyRdn (hs : IsStable schema) {text : String} {r r' : Rdn}
    (hr : r.IsProper) (h : schema.qualifyRdn text r = .ok r') :
    r'.IsFirm ∧ ∀ text', schema.qualifyRdn text' r' = .ok r' := by
  obtain ⟨avas, hm, rfl⟩ := qualifyRdn_cases h
  have hfrom : ∀ b ∈ avas.mergeSort Ava.le, ∃ a ∈ r, schema.qualifyAva text a = .ok b :=
    fun b hb => exists_of_mapM hm b (List.mem_mergeSort.mp hb)
  refine ⟨⟨?_, fun b hb => ?_⟩, fun text' => ?_⟩
  · refine fun hnil => hr.ne_nil (List.eq_nil_of_length_eq_zero ?_)
    rw [← length_of_mapM hm, ← List.length_mergeSort avas, hnil, List.length_nil]
  · obtain ⟨a, ha, hab⟩ := hfrom b hb
    exact hs.firm text a b (hr.named a ha) hab
  · have hself : (avas.mergeSort Ava.le).mapM (schema.qualifyAva text') =
        .ok (avas.mergeSort Ava.le) := by
      refine mapM_eq_ok_self fun b hb => ?_
      obtain ⟨a, ha, hab⟩ := hfrom b hb
      exact hs.fixed text text' a b (hr.named a ha) hab
    rw [qualifyRdn, hself]
    exact congrArg Except.ok (Ava.mergeSort_mergeSort avas)

theorem parseQualified_of_parse {text text' : String} {rdns rdns' : List Rdn}
    (hp : Dn.parse text = .ok ⟨text', .plain rdns⟩)
    (hm : rdns.mapM (schema.qualifyRdn text') = .ok rdns') :
    schema.parseQualified text = .ok ⟨text', .qualified rdns'⟩ := by
  have hq : schema.qualify ⟨text', .plain rdns⟩ =
      (rdns.mapM (schema.qualifyRdn text')).map fun rdns => ⟨text', .qualified rdns⟩ :=
    if_neg Bool.false_ne_true
  rw [parseQualified, hp]
  show schema.qualify ⟨text', .plain rdns⟩ = _
  rw [hq, hm]
  rfl

theorem exists_of_parseQualified {text : String} {d : Dn}
    (h : schema.parseQualified text = .ok d) :
    ∃ p, Dn.parse text = .ok p ∧ schema.qualify p = .ok d := by
  unfold parseQualified at h
  cases hp : Dn.parse text with
  | error e => rw [hp] at h; cases h
  | ok p =>
    rw [hp] at h
    exact ⟨p, rfl, h⟩

/-- What a stable schema qualified is read from its canonical text and qualified again. -/
theorem parse_qualified (hs : IsStable schema) {text : String} {d : Dn}
    (h : schema.parseQualified text = .ok d) :
    d.isExtended = false ∧ Dn.parse d.normalized = .ok ⟨d.normalized, .plain d.rdns⟩ ∧
      schema.parseQualified d.normalized = .ok ⟨d.normalized, .qualified d.rdns⟩ := by
  obtain ⟨p, hp, hq⟩ := exists_of_parseQualified h
  obtain ⟨-, -, rdns, hform, hm⟩ := qualify_cases hq
  have hrdns : d.rdns = rdns := by rw [Dn.rdns, hform]
  have hx : d.isExtended = false := by rw [Dn.isExtended, hform]; rfl
  have hfrom : ∀ r' ∈ d.rdns, r'.IsFirm ∧ ∀ text', schema.qualifyRdn text' r' = .ok r' := by
    intro r' hr'
    obtain ⟨r, hr, hrr⟩ := exists_of_mapM hm r' (hrdns ▸ hr')
    exact qualifyRdn_qualifyRdn hs (Dn.isProper_of_parse hp r hr) hrr
  have hparse := Dn.parse_normalized hx fun r hr => (hfrom r hr).1
  refine ⟨hx, hparse, ?_⟩
  have hself : d.rdns.mapM (schema.qualifyRdn d.normalized) = .ok d.rdns :=
    mapM_eq_ok_self fun r hr => (hfrom r hr).2 d.normalized
  exact parseQualified_of_parse hparse hself

/-- **The canonical text of a qualified name is a name for the same**, and its own canonical
text. -/
theorem normalized_round_trip (hl : Lowering lower) {text : String} {d : Dn}
    (h : (caseIgnore lower).parseQualified text = .ok d) :
    (∃ p, Dn.parse d.normalized = .ok p ∧ p.same d = true) ∧
      ∃ q, (caseIgnore lower).parseQualified d.normalized = .ok q ∧ q.same d = true ∧
        q.normalized = d.normalized := by
  obtain ⟨hx, hparse, hqualified⟩ := parse_qualified (isStable_caseIgnore hl) h
  refine ⟨⟨_, hparse, ?_⟩, _, hqualified, ?_, ?_⟩
  · exact (Dn.same_iff_of_not_isExtended rfl hx).mpr rfl
  · exact (Dn.same_iff_of_not_isExtended rfl hx).mpr rfl
  · exact (Dn.normalized_of_not_isExtended hx).symm

/-- long names and numbers of types, escapes of both kinds, blanks of all kinds, capital letters -/
def scrambled : String :=
  "OU=  Über\t ΣΣ +2.5.4.3=\\23a\\2Cb\\00 ; CommonName=#x\\ , dc="

def tidied : Dn where
  text := scrambled
  form := .qualified
    [[⟨"cn", "#a,b\x00"⟩, ⟨"ou", "über σς"⟩], [⟨"cn", "#x"⟩], [⟨"dc", ""⟩]]

theorem parseQualified_scrambled : standard.parseQualified scrambled = .ok tidied := by
  have hparse : Dn.parse scrambled = .ok ⟨scrambled, .plain
      [[⟨"OU", "Über\t ΣΣ"⟩, ⟨"2.5.4.3", "#a,b\x00"⟩], [⟨"CommonName", "#x "⟩],
        [⟨"dc", ""⟩]]⟩ := by decide +kernel
  refine parseQualified_of_parse hparse (mapM_eq_ok_iff.mpr (.cons ?_ (.cons ?_ (.cons ?_ .nil))))
  · have hm : [⟨"OU", "Über\t ΣΣ"⟩, ⟨"2.5.4.3", "#a,b\x00"⟩].mapM (standard.qualifyAva scrambled) =
        .ok [⟨"ou", "über σς"⟩, ⟨"cn", "#a,b\x00"⟩] := by decide +kernel
    have hsort : [⟨"ou", "über σς"⟩, ⟨"cn", "#a,b\x00"⟩].mergeSort Ava.le =
        [⟨"cn", "#a,b\x00"⟩, ⟨"ou", "über σς"⟩] := by
      have hordered : [⟨"cn", "#a,b\x00"⟩, ⟨"ou", "über σς"⟩].Pairwise
          fun a b : Ava => a.le b = true := by decide +kernel
      refine List.Perm.eq_of_pairwise (fun a b _ _ => Ava.antisymm) ?_ hordered ?_
      · exact List.pairwise_mergeSort Ava.trans Ava.total _
      · exact (List.mergeSort_perm _ _).trans (.swap _ _ _)
    rw [qualifyRdn, hm]
    exact congrArg Except.ok hsort
  · decide +kernel
  · decide +kernel

theorem normalized_round_trip_scrambled :
    Lowering lowercase ∧ standard.parseQualified scrambled = .ok tidied ∧
      tidied.normalized = "cn=\\23a\\,b\\00+ou=über σς,cn=\\23x,dc=" ∧
      (∃ p, Dn.parse tidied.normalized = .ok p ∧ p.same tidied = true) ∧
        ∃ q, standard.parseQualified tidied.normalized = .ok q ∧ q.same tidied = true ∧
          q.normalized = tidied.normalized :=
  ⟨lowering_lowercase, parseQualified_scrambled, by decide +kernel,
    normalized_round_trip lowering_lowercase parseQualified_scrambled⟩

end Schema

end DirectoryClient
