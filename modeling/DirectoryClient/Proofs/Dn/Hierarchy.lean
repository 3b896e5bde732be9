import DirectoryClient.Proofs.Dn.Order

/-!
# Names as a tree

Names that are the same are one place in a tree.  The way from a place up to the root passes every
place above it, one for each depth.  Extended names have no place in the tree.

* `isAncestorOf_trans`, `isAncestorOf_asymm`   ancestry is a strict order (with
                            `not_isAncestorOf_self`);
* `isAncestorOf_congr`      it does not tell apart names that are the same;
* `count_of_isAncestorOf`   of two names above a third, either they are the same or one is above the
                            other;
* `IsHierarchy`, `isHierarchy`   all that looking for the closest context rests on.
-/

namespace DirectoryClient

namespace Dn

variable {a a' b b' c d : Dn}

theorem length_lt_of_isAncestorOf (h : a.isAncestorOf b = true) :
    a.rdns.length < b.rdns.length := (isAncestorOf_iff.mp h).2.2.1

theorem not_isAncestorOf_of_length_le (h : b.rdns.length ≤ a.rdns.length) :
    a.isAncestorOf b = false :=
  Bool.eq_false_iff.mpr fun hab => Nat.not_lt_of_le h (length_lt_of_isAncestorOf hab)

theorem not_same_of_length_ne (h : a.rdns.length ≠ b.rdns.length) : a.same b = false :=
  Bool.eq_false_iff.mpr fun hab => h (congrArg List.length (rdns_of_same hab))

theorem isAncestorOf_trans (hab : a.isAncestorOf b = true) (hbc : b.isAncestorOf c = true) :
    a.isAncestorOf c = true := by
  obtain ⟨ha, -, hlt, hsuffix⟩ := isAncestorOf_iff.mp hab
  obtain ⟨-, hc, hlt', hsuffix'⟩ := isAncestorOf_iff.mp hbc
  exact isAncestorOf_iff.mpr ⟨ha, hc, Nat.lt_trans hlt hlt', hsuffix.trans hsuffix'⟩

theorem isAncestorOf_asymm (h : a.isAncestorOf b = true) : b.isAncestorOf a = false :=
  not_isAncestorOf_of_length_le (Nat.le_of_lt (length_lt_of_isAncestorOf h))

theorem isAncestorOf_congr (ha : a.same a' = true) (hb : b.same b' = true) :
    a.isAncestorOf b = a'.isAncestorOf b' := by
  rw [isAncestorOf, isAncestorOf, isExtended_of_same ha, isExtended_of_same hb, rdns_of_same ha,
    rdns_of_same hb]

/-- The root is above every other name that has a place in the tree. -/
theorem isAncestorOf_of_isRoot (ha : a.isRoot = true) (hb : b.isRoot = false)
    (hx : b.isExtended = false) : a.isAncestorOf b = true := by
  refine (holds_of_isRoot hx ha).resolve_left fun hsame => ?_
  have hroot : b.isRoot = true :=
    isRoot_iff.mpr ⟨hx, (rdns_of_same hsame).symm.trans (isRoot_iff.mp ha).2⟩
  rw [hb] at hroot
  cases hroot

/-- Two names above a third are the same, or one of them is above the other; which one, their depths
tell. -/
theorem count_of_isAncestorOf (ha : a.isAncestorOf d = true) (hb : b.isAncestorOf d = true) :
    [a.same b, a.isAncestorOf b, b.isAncestorOf a].count true = 1 := by
  have hd := (isAncestorOf_iff.mp ha).2.1
  rcases Nat.lt_trichotomy a.rdns.length b.rdns.length with hlt | heq | hlt
  · have hab : a.isAncestorOf b = true := isDescendantOf_of_holds hd (.inr ha) (.inr hb) hlt
    rw [hab, isAncestorOf_asymm hab, not_same_of_length_ne (Nat.ne_of_lt hlt)]
    rfl
  · rw [same_of_holds hd (.inr ha) (.inr hb) heq,
      not_isAncestorOf_of_length_le (Nat.le_of_eq heq.symm),
      not_isAncestorOf_of_length_le (Nat.le_of_eq heq)]
    rfl
  · have hba : b.isAncestorOf a = true := isDescendantOf_of_holds hd (.inr hb) (.inr ha) hlt
    rw [hba, isAncestorOf_asymm hba, not_same_of_length_ne (Nat.ne_of_gt hlt)]
    rfl

/-! ## All of it -/

/-- Names form a tree when `same` tells which of them are one place and `above` which are properly
above which. -/
structure IsHierarchy (same above : Dn → Dn → Bool) : Prop where
  equivalence : Equivalence fun a b => same a b = true
  irrefl : ∀ a, above a a = false
  trans : ∀ a b c, above a b = true → above b c = true → above a c = true
  asymm : ∀ a b, above a b = true → above b a = false
  congr : ∀ a a' b b', same a a' = true → same b b' = true → above a b = above a' b'
  /-- extended names are neither above nor below another name -/
  outside : ∀ a b, a.isExtended = true ∨ b.isExtended = true → above a b = false
  root : ∀ a b, a.isRoot = true → b.isRoot = false → b.isExtended = false → above a b = true
  /-- for two names above a third exactly one holds: they are the same, the first is above the second,
  the second is above the first -/
  chain : ∀ a b d, above a d = true → above b d = true →
    [same a b, above a b, above b a].count true = 1
  depth : ∀ a b d, above a d = true → above b d = true → a.rdns.length = b.rdns.length →
    same a b = true

/-- **Names form a tree**, whether they are plain, qualified or extended. -/
theorem isHierarchy : IsHierarchy same isAncestorOf where
  equivalence := ⟨same_refl, fun {a b} h => (same_comm b a).trans h, same_trans⟩
  irrefl := not_isAncestorOf_self
  trans _ _ _ := isAncestorOf_trans
  asymm _ _ := isAncestorOf_asymm
  congr _ _ _ _ := isAncestorOf_congr
  outside a b hx := by
    refine Bool.eq_false_iff.mpr fun h => ?_
    obtain ⟨ha, hb, -, -⟩ := isAncestorOf_iff.mp h
    rcases hx with hx | hx
    · rw [ha] at hx
      cases hx
    · rw [hb] at hx
      cases hx
  root _ _ := isAncestorOf_of_isRoot
  chain _ _ _ := count_of_isAncestorOf
  depth _ _ _ ha hb hl := same_of_holds (isAncestorOf_iff.mp ha).2.1 (.inr ha) (.inr hb) hl

def company : List Rdn := [[⟨"dc", "example"⟩], [⟨"dc", "com"⟩]]

def writtenCompany : Dn := ⟨"dc=example,dc=com", .plain company⟩

def qualifiedCompany : Dn := ⟨"DC=Example,DC=com", .qualified company⟩

def qualifiedMember : Dn := ⟨"CN=Bob,DC=example,DC=com", .qualified ([⟨"cn", "bob"⟩] :: company)⟩

/-- plain and qualified names on one way to the root -/
theorem isHierarchy_mixed : writtenCompany.isAncestorOf qualifiedMember = true ∧
    qualifiedCompany.isAncestorOf qualifiedMember = true ∧
    writtenCompany.same qualifiedCompany = true ∧ root.isAncestorOf writtenCompany = true ∧
    [root.same writtenCompany, root.isAncestorOf writtenCompany,
      writtenCompany.isAncestorOf root].count true = 1 := by
  have hwritten : writtenCompany.isAncestorOf qualifiedMember = true := by decide
  have hqualified : qualifiedCompany.isAncestorOf qualifiedMember = true := by decide
  have htop : root.isAncestorOf writtenCompany = true := isHierarchy.root _ _ rfl rfl rfl
  have hroot : root.isAncestorOf qualifiedMember = true := isHierarchy.trans _ _ _ htop hwritten
  exact ⟨hwritten, hqualified, isHierarchy.depth _ _ _ hwritten hqualified rfl, htop,
    isHierarchy.chain _ _ _ hroot hwritten⟩

end Dn

end DirectoryClient
