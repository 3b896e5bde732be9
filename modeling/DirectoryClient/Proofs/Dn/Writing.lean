import DirectoryClient.Proofs.Dn.Escape
import DirectoryClient.Proofs.Dn.Reading
import DirectoryClient.Proofs.Text.Ascii
import DirectoryClient.Proofs.Text.Words

/-!
# Writing a name and reading it back

* `isTypeChar_cases`      what characters of types are like;
* `Framed`                a text that trimming leaves as it is;
* `Ava.IsFirm`            an assertion of which trimming takes nothing away (`parseAva_avaText`);
* `Rdn.IsFirm`            a relative name of such assertions (`parseRdn_rdnText`);
* `parse_normalized`      a name of such relative names is read back from its canonical text.
-/

namespace DirectoryClient

open DirectoryClient.Text

/-! ## Types -/

theorem toNat_lt_of_isTypeChar {c : Char} (h : isTypeChar c = true) : c.toNat < 0x80 := by
  simp only [isTypeChar, Bool.or_eq_true, beq_iff_eq] at h
  rcases h with (h | rfl) | rfl
  · exact toNat_lt_of_isAlphanum h
  · decide
  · decide

/-- Characters of types mean nothing inside a name, and are in lower case after one step. -/
theorem isTypeChar_cases {c : Char} (h : isTypeChar c = true) :
    isBlank c = false ∧ isSpecial c = false ∧ isTypeChar c.toLower = true := by
  have hcases : isTypeChar c = true → isBlank c = false ∧ isSpecial c = false ∧
      isTypeChar c.toLower = true :=
    forall_ascii (toNat_lt_of_isTypeChar h) (by decide)
  exact hcases h

theorem trim_type {type : String} (h : IsType type) : trim type.toList = type.toList :=
  trim_noBlank fun c hc => (isTypeChar_cases (h.chars c hc)).1

/-- What begins with a type begins with one of its characters. -/
theorem head?_trim_type {type : String} (h : IsType type) (t : List Char) :
    ∀ c ∈ (trim (type.toList ++ t)).head?, isTypeChar c = true := by
  have hname : type.toList.all isBlank = false := by
    obtain ⟨c, s, hc⟩ := List.exists_cons_of_ne_nil h.ne_nil
    have hfirst : isTypeChar c = true := h.chars c (hc ▸ List.mem_cons_self)
    rw [hc, List.all_cons, (isTypeChar_cases hfirst).1, Bool.false_and]
  rw [head?_trim_append hname, trim_type h]
  intro c hc
  exact h.chars c (List.mem_of_mem_head? hc)

theorem isSpecial_of_separatesRdns {c : Char} (h : separatesRdns c = true) :
    isSpecial c = true := by
  rcases Bool.or_eq_true _ _ ▸ h with h | h <;> obtain rfl := beq_iff_eq.mp h <;> decide

theorem isSpecial_of_separatesAvas {c : Char} (h : separatesAvas c = true) :
    isSpecial c = true := by
  obtain rfl := beq_iff_eq.mp h
  decide

/-! ## Texts of names -/

/-- A text that begins with a type and does not end in a blank, so that trimming leaves it. -/
structure Framed (s : List Char) : Prop where
  ne_nil : s ≠ []
  starts : ∀ c ∈ s.head?, isTypeChar c = true
  ends : ∀ c ∈ s.getLast?, isBlank c = false

namespace Framed

variable {s : List Char}

theorem all_isBlank (h : Framed s) : s.all isBlank = false := by
  obtain ⟨c, t, rfl⟩ := List.exists_cons_of_ne_nil h.ne_nil
  have hc := (isTypeChar_cases (h.starts c rfl)).1
  rw [List.all_cons, hc, Bool.false_and]

theorem trim_eq (h : Framed s) : trim s = s :=
  trim_eq_self (fun c hc => (isTypeChar_cases (h.starts c hc)).1) h.ends

theorem head?_ne (h : Framed s) {c : Char} (hc : isTypeChar c = false) : s.head? ≠ some c := by
  intro hs
  rw [h.starts c hs] at hc
  cases hc

theorem intercalate {sep : List Char} {parts : List (List Char)} (hne : parts ≠ [])
    (h : ∀ p ∈ parts, Framed p) : Framed (sep.intercalate parts) where
  ne_nil := by
    obtain ⟨p, parts, rfl⟩ := List.exists_cons_of_ne_nil hne
    exact intercalate_cons_ne_nil (h p List.mem_cons_self).ne_nil
  starts := forall_head?_intercalate (fun p hp => (h p hp).ne_nil) fun p hp => (h p hp).starts
  ends := forall_getLast?_intercalate (fun p hp => (h p hp).ne_nil) fun p hp => (h p hp).ends

end Framed

/-! ## Assertions -/

/-- An assertion with a type, where no end of the value is trimmed away. -/
structure Ava.IsFirm (a : Ava) : Prop where
  named : IsType a.type
  starts : ∀ c ∈ a.value.toList.head?, MayEnd c
  ends : ∀ c ∈ a.value.toList.getLast?, MayEnd c

theorem cutAtEquals_append {t : List Char} (ht : '=' ∉ t) (v : List Char) :
    cutAtEquals (t ++ '=' :: v) = some (t, v) := by
  induction t with
  | nil => simp [cutAtEquals]
  | cons c t ih =>
    obtain ⟨hc, ht⟩ := not_or.mp (List.mem_cons.not.mp ht)
    simp [cutAtEquals, Ne.symm hc, ih ht]

namespace Dn

theorem toList_avaText (a : Ava) :
    (avaText a).toList = a.type.toList ++ '=' :: escapeFrom true a.value.toList := by
  simp [avaText, escapeValue]

variable {a : Ava} {r : Rdn} {rdns : List Rdn}

/-- **An assertion is read back from its text.** -/
theorem parseAva_avaText (h : a.IsFirm) : parseAva (avaText a).toList = .ok a := by
  obtain ⟨hne, hchars⟩ := h.named
  have heq : '=' ∉ a.type.toList := fun he => absurd (hchars _ he) (by decide)
  have htrim : trim a.type.toList = a.type.toList := trim_type h.named
  have hok : (a.type.toList.isEmpty || !a.type.toList.all isTypeChar) = false := by
    simpa [hne] using hchars
  rw [parseAva, toList_avaText, cutAtEquals_append heq]
  simp only [htrim, hok, unescapeValue_escapeFrom h.starts, String.ofList_toList]
  rfl

theorem sealed_avaText {separator : Char → Bool}
    (hs : ∀ c, separator c = true → isSpecial c = true) (he : separator '=' = false)
    (ha : IsType a.type) : Sealed separator (avaText a).toList := by
  rw [toList_avaText]
  refine .append (.of_forall fun c hc => ?_)
    (.plain (by decide) he (sealed_escapeFrom hs true a.value.toList))
  have hspecial := (isTypeChar_cases (ha.chars c hc)).2.1
  refine ⟨?_, Bool.eq_false_iff.mpr fun h => ?_⟩
  · rintro rfl
    exact absurd hspecial (by decide)
  · rw [hs c h] at hspecial
    cases hspecial

theorem framed_avaText (h : a.IsFirm) : Framed (avaText a).toList := by
  obtain ⟨hne, hchars⟩ := h.named
  rw [toList_avaText]
  refine ⟨List.append_ne_nil_of_left_ne_nil hne _, ?_, ?_⟩
  · rw [List.head?_append_of_ne_nil _ hne]
    exact fun c hc => hchars c (List.mem_of_mem_head? hc)
  · rw [List.getLast?_append_of_ne_nil _ (List.cons_ne_nil _ _)]
    intro c hc
    cases hv : escapeFrom true a.value.toList with
    | nil =>
      rw [hv] at hc
      obtain rfl := Option.some.inj hc
      decide
    | cons d v =>
      rw [hv, List.getLast?_cons_cons, ← hv] at hc
      rcases getLast?_escapeFrom true _ c hc with hb | ⟨hsp, hlast⟩
      · exact hb
      · exact Bool.eq_false_iff.mpr fun hb => hsp (h.ends c hlast hb)

/-! ## Relative names -/

theorem toList_rdnText (r : Rdn) :
    (rdnText r).toList = ['+'].intercalate (r.map fun a => (avaText a).toList) := by
  rw [rdnText, String.toList_intercalate, List.map_map]
  rfl

end Dn

/-- A relative name of assertions that are read back. -/
structure Rdn.IsFirm (r : Rdn) : Prop where
  ne_nil : r ≠ []
  firm : ∀ a ∈ r, a.IsFirm

theorem Rdn.IsFirm.isProper {r : Rdn} (h : r.IsFirm) : r.IsProper :=
  ⟨h.ne_nil, fun a ha => (h.firm a ha).named⟩

namespace Dn

variable {r : Rdn} {rdns : List Rdn}

theorem parseRdn_rdnText (h : r.IsFirm) : parseRdn (rdnText r).toList = .ok r := by
  have hparts : parts separatesAvas (rdnText r).toList =
      .ok (r.map fun a => (avaText a).toList) := by
    rw [toList_rdnText]
    refine parts_intercalate (by decide) rfl (by simpa using h.ne_nil) ?_ ?_
    · refine List.forall_mem_map.mpr fun a ha => ?_
      exact sealed_avaText (fun _ => isSpecial_of_separatesAvas) rfl (h.firm a ha).named
    · exact List.forall_mem_map.mpr fun a ha => (framed_avaText (h.firm a ha)).all_isBlank
  have hread : (r.map fun a => (avaText a).toList).mapM parseAva = .ok r := by
    rw [mapM_eq_ok_iff, List.forall₂_map_left_iff, List.forall₂_same]
    exact fun a ha => parseAva_avaText (h.firm a ha)
  rw [parseRdn, hparts]
  exact hread

theorem sealed_rdnText (h : r.IsProper) : Sealed separatesRdns (rdnText r).toList := by
  rw [toList_rdnText]
  refine .intercalate (by decide) rfl (List.forall_mem_map.mpr fun a ha => ?_)
  exact sealed_avaText (fun _ => isSpecial_of_separatesRdns) rfl (h.named a ha)

theorem framed_rdnText (h : r.IsFirm) : Framed (rdnText r).toList := by
  rw [toList_rdnText]
  refine .intercalate (by simpa using h.ne_nil) (List.forall_mem_map.mpr fun a ha => ?_)
  exact framed_avaText (h.firm a ha)

/-! ## Names -/

theorem parseRdns_intercalate (hne : rdns ≠ []) (h : ∀ r ∈ rdns, r.IsFirm) :
    parseRdns ([','].intercalate (rdns.map fun r => (rdnText r).toList)) = .ok rdns := by
  have hparts : parts separatesRdns ([','].intercalate (rdns.map fun r => (rdnText r).toList)) =
      .ok (rdns.map fun r => (rdnText r).toList) := by
    refine parts_intercalate (by decide) rfl (by simpa using hne) ?_ ?_
    · exact List.forall_mem_map.mpr fun r hr => sealed_rdnText (h r hr).isProper
    · exact List.forall_mem_map.mpr fun r hr => (framed_rdnText (h r hr)).all_isBlank
  have hread : (rdns.map fun r => (rdnText r).toList).mapM parseRdn = .ok rdns := by
    rw [mapM_eq_ok_iff, List.forall₂_map_left_iff, List.forall₂_same]
    exact fun r hr => parseRdn_rdnText (h r hr)
  have htext : [','].intercalate (rdns.map fun r => (rdnText r).toList) ≠ [] :=
    (Framed.intercalate (by simpa using hne)
      (List.forall_mem_map.mpr fun r hr => framed_rdnText (h r hr))).ne_nil
  rw [parseRdns, if_neg (by simpa using htext), hparts]
  exact hread

theorem normalized_of_not_isExtended {d : Dn} (hx : d.isExtended = false) :
    d.normalized = ",".intercalate (d.rdns.map rdnText) := by
  obtain ⟨text, _ | _ | _⟩ := d
  · rfl
  · rfl
  · cases hx

theorem toList_normalized {d : Dn} (hx : d.isExtended = false) :
    d.normalized.toList = [','].intercalate (d.rdns.map fun r => (rdnText r).toList) := by
  rw [normalized_of_not_isExtended hx, String.toList_intercalate, List.map_map]
  rfl

/-- **A name is read back from its canonical text**, if nothing of it is trimmed away. -/
theorem parse_normalized {d : Dn} (hx : d.isExtended = false) (h : ∀ r ∈ d.rdns, r.IsFirm) :
    Dn.parse d.normalized = .ok ⟨d.normalized, .plain d.rdns⟩ := by
  have htext := toList_normalized hx
  by_cases hne : d.rdns = []
  · rw [hne] at htext ⊢
    have hnil : d.normalized = "" := String.toList_injective htext
    rw [hnil]
    exact parse_of_blank rfl
  · have hframed : Framed d.normalized.toList := by
      rw [htext]
      exact .intercalate (by simpa using hne)
        (List.forall_mem_map.mpr fun r hr => framed_rdnText (h r hr))
    have hform : Form.parse d.normalized.toList = .ok (.plain d.rdns) := by
      rw [Form.parse, if_neg (hframed.head?_ne (by decide)), htext, parseRdns_intercalate hne h]
      rfl
    rw [Dn.parse, trimmed, hframed.trim_eq, hform, String.ofList_toList]

end Dn

end DirectoryClient
