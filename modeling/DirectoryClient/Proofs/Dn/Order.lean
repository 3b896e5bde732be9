import DirectoryClient.Dn.Basic

/-!
# The order of names

Names that are not extended are compared by their relative names alone: one lies above another if
its relative names are a proper suffix.

* `Dn.same_trans`             sameness is an equivalence, with `same_refl` and `same_comm`;
* `isAncestorOf_iff`          ancestry in terms of suffixes;
* `Dn.Holds`                  a context holds a name: it is the name or lies above it;
* `same_of_holds`             of the contexts that hold a name, two of one depth are the same;
* `isDescendantOf_of_holds`   and of two depths the deeper one lies below the other.
-/

namespace DirectoryClient

namespace Dn

/-! ## Sameness -/

theorem rdns_of_isExtended {a : Dn} (h : a.isExtended = true) : a.rdns = [] := by
  have hf : a.form = .extended := by simpa [isExtended] using h
  rw [rdns, hf]

theorem same_iff_of_not_isExtended {a b : Dn} (ha : a.isExtended = false)
    (hb : b.isExtended = false) : a.same b = true ↔ a.rdns = b.rdns := by
  simp [same, ha, hb]

theorem same_iff_of_isExtended {a b : Dn} (ha : a.isExtended = true) (hb : b.isExtended = true) :
    a.same b = true ↔ a.foldedText = b.foldedText := by
  simp [same, ha, hb]

theorem isExtended_of_same {a b : Dn} (h : a.same b = true) : a.isExtended = b.isExtended := by
  cases ha : a.isExtended <;> cases hb : b.isExtended <;> simp [same, ha, hb] at h ⊢

theorem rdns_of_same {a b : Dn} (h : a.same b = true) : a.rdns = b.rdns := by
  have he := isExtended_of_same h
  cases hb : b.isExtended with
  | false => exact (same_iff_of_not_isExtended (he.trans hb) hb).mp h
  | true => rw [rdns_of_isExtended hb, rdns_of_isExtended (he.trans hb)]

theorem same_trans {a b c : Dn} (hab : a.same b = true) (hbc : b.same c = true) :
    a.same c = true := by
  have hb := isExtended_of_same hab
  have hc := isExtended_of_same hbc
  cases h : c.isExtended with
  | false =>
    rw [same_iff_of_not_isExtended (hb.trans (hc.trans h)) h]
    exact (rdns_of_same hab).trans (rdns_of_same hbc)
  | true =>
    rw [same_iff_of_isExtended (hb.trans (hc.trans h)) h]
    rw [same_iff_of_isExtended (hb.trans (hc.trans h)) (hc.trans h)] at hab
    rw [same_iff_of_isExtended (hc.trans h) h] at hbc
    exact hab.trans hbc

/-! ## Ancestry -/

theorem isAncestorOf_iff {a b : Dn} : a.isAncestorOf b = true ↔
    a.isExtended = false ∧ b.isExtended = false ∧ a.rdns.length < b.rdns.length ∧
      a.rdns <:+ b.rdns := by
  simp [isAncestorOf, and_assoc]

theorem isExtended_of_isQualified {d : Dn} (h : d.isQualified = true) : d.isExtended = false := by
  cases hf : d.form <;> simp [isQualified, isExtended, hf] at h ⊢

/-- the context is the name, or lies above it -/
def Holds (c d : Dn) : Prop := c.same d = true ∨ c.isAncestorOf d = true

theorem holds_iff {c d : Dn} (hd : d.isExtended = false) :
    c.Holds d ↔ c.isExtended = false ∧ c.rdns <:+ d.rdns := by
  constructor
  · rintro (h | h)
    · exact ⟨(isExtended_of_same h).trans hd, [], rdns_of_same h⟩
    · obtain ⟨hc, -, -, hs⟩ := isAncestorOf_iff.mp h
      exact ⟨hc, hs⟩
  · rintro ⟨hc, hs⟩
    by_cases hl : c.rdns.length < d.rdns.length
    · exact .inr (isAncestorOf_iff.mpr ⟨hc, hd, hl, hs⟩)
    · refine .inl ((same_iff_of_not_isExtended hc hd).mpr (hs.eq_of_length_le ?_))
      exact Nat.le_of_not_lt hl

theorem Holds.of_same {b c d : Dn} (hd : d.isExtended = false) (hbc : b.same c = true)
    (hc : c.Holds d) : b.Holds d := by
  obtain ⟨hec, hsc⟩ := (holds_iff hd).mp hc
  exact (holds_iff hd).mpr ⟨(isExtended_of_same hbc).trans hec, rdns_of_same hbc ▸ hsc⟩

theorem isRoot_iff {c : Dn} : c.isRoot = true ↔ c.isExtended = false ∧ c.rdns = [] := by
  simp [isRoot]

/-- The name above all others holds every name. -/
theorem holds_of_isRoot {c d : Dn} (hd : d.isExtended = false) (hc : c.isRoot = true) :
    c.Holds d := by
  obtain ⟨he, hn⟩ := isRoot_iff.mp hc
  exact (holds_iff hd).mpr ⟨he, hn ▸ List.nil_suffix⟩

theorem length_le_of_holds {c d : Dn} (hd : d.isExtended = false) (h : c.Holds d) :
    c.rdns.length ≤ d.rdns.length := ((holds_iff hd).mp h).2.length_le

theorem same_of_holds {b c d : Dn} (hd : d.isExtended = false) (hb : b.Holds d) (hc : c.Holds d)
    (hl : b.rdns.length = c.rdns.length) : b.same c = true := by
  obtain ⟨heb, hsb⟩ := (holds_iff hd).mp hb
  obtain ⟨hec, hsc⟩ := (holds_iff hd).mp hc
  have hbc : b.rdns <:+ c.rdns := List.suffix_of_suffix_length_le hsb hsc (Nat.le_of_eq hl)
  exact (same_iff_of_not_isExtended heb hec).mpr (hbc.eq_of_length hl)

theorem isDescendantOf_of_holds {b c d : Dn} (hd : d.isExtended = false) (hb : b.Holds d)
    (hc : c.Holds d) (hl : b.rdns.length < c.rdns.length) : c.isDescendantOf b = true := by
  obtain ⟨heb, hsb⟩ := (holds_iff hd).mp hb
  obtain ⟨hec, hsc⟩ := (holds_iff hd).mp hc
  have hbc : b.rdns <:+ c.rdns := List.suffix_of_suffix_length_le hsb hsc (Nat.le_of_lt hl)
  exact isAncestorOf_iff.mpr ⟨heb, hec, hl, hbc⟩

end Dn

end DirectoryClient
