import DirectoryClient.Entry
import Mathlib.Data.List.Nodup

/-!
# Sorting out binary attributes

The values of an attribute stay together and in order when it moves, and join those that it has among
the binary attributes.

* `Attributes.IsProper`     a name occurs once, as in every entry;
* `Attributes.Same`, `Entry.Same`   the same values under every name, in whatever order the names are
                            kept;
* `get?_extendAll`          what adding many attributes to others does;
* `BinaryAttributes.Sorts`  an entry and the same one with its binary attributes where they belong;
* `sorts_classify`, `sorts_moveAll`   sorting at once, and one attribute after the other;
* `classify_conserves`      no value is lost, and the order of the names does not matter.
-/

namespace DirectoryClient

namespace Attributes

variable {α β : Type} {m m' : Attributes α} {name : String}

/-- whether a name occurs once -/
def IsProper (m : Attributes α) : Prop := (m.map Prod.fst).Nodup

/-- whether the same values stand under every name -/
def Same (m m' : Attributes α) : Prop := ∀ name, m.get? name = m'.get? name

/-- the values under a name after more were added, if any were -/
def joined (old new : Option (List α)) : Option (List α) :=
  match new with
  | none => old
  | some values => some (old.getD [] ++ values)

@[simp]
theorem joined_none (old : Option (List α)) : joined old none = old := rfl

@[simp]
theorem joined_some (old : Option (List α)) (values : List α) :
    joined old (some values) = some (old.getD [] ++ values) := rfl

theorem get?_cons (key : String) (values : List α) (m : Attributes α) (name : String) :
    get? ((key, values) :: m) name = if name = key then some values else m.get? name := by
  by_cases h : name = key
  · simp [get?, h]
  · have hb : (name == key) = false := by simpa using h
    simp [get?, List.lookup_cons, h, hb]

theorem get?_eq_none (h : name ∉ m.map Prod.fst) : m.get? name = none := by
  induction m with
  | nil => rfl
  | cons a m ih =>
    obtain ⟨key, values⟩ := a
    obtain ⟨hne, hrest⟩ := not_or.mp (List.mem_cons.not.mp h)
    rw [get?_cons, if_neg hne, ih hrest]

/-- The order in which the names are kept does not matter. -/
theorem same_of_perm (hm : m.IsProper) (h : m.Perm m') : m.Same m' := by
  induction h with
  | nil => exact fun _ => rfl
  | cons a h ih =>
    intro name
    rw [get?_cons, get?_cons, ih (List.nodup_cons.mp hm).2 name]
  | swap a b m =>
    intro name
    rw [get?_cons, get?_cons, get?_cons, get?_cons]
    by_cases ha : name = a.1
    · by_cases hb : name = b.1
      · exact absurd (hb.symm.trans ha) fun he => (List.nodup_cons.mp hm).1 (by simp [he])
      · rw [if_pos ha, if_neg hb, if_pos ha]
    · rw [if_neg ha, if_neg ha]
  | trans h₁ h₂ ih₁ ih₂ =>
    intro name
    rw [ih₁ hm name]
    exact ih₂ ((h₁.map Prod.fst).nodup_iff.mp hm) name

/-- Names are kept or left out with all their values. -/
theorem get?_filter (keep : String → Bool) (m : Attributes α) (name : String) :
    get? (m.filter fun a => keep a.1) name = if keep name then m.get? name else none := by
  induction m with
  | nil => simp [get?]
  | cons a m ih =>
    obtain ⟨key, values⟩ := a
    by_cases hkey : keep key = true
    · have hcons : ((key, values) :: m).filter (fun a => keep a.1) =
          (key, values) :: m.filter fun a => keep a.1 := List.filter_cons_of_pos hkey
      rw [hcons, get?_cons, get?_cons, ih]
      by_cases hname : name = key
      · simp [hname, hkey]
      · simp [hname]
    · have hcons : ((key, values) :: m).filter (fun a => keep a.1) =
          m.filter fun a => keep a.1 := List.filter_cons_of_neg hkey
      rw [hcons, ih, get?_cons]
      by_cases hname : name = key
      · simp [hname, hkey]
      · simp [hname]

theorem get?_extend (key : String) (values : List α) (m : Attributes α) (name : String) :
    (m.extend key values).get? name =
      if name = key then joined (m.get? name) (some values) else m.get? name := by
  by_cases h : name = key
  · rw [if_pos h, h, get?_extend_self]
    rfl
  · rw [if_neg h, get?_extend_of_ne key name values m h]

/-- Each attribute that is added joins the values under its name. -/
theorem get?_extendAll (f : List β → List α) {l : Attributes β} (hl : l.IsProper) (m : Attributes α)
    (name : String) : (l.foldl (fun m a => m.extend a.1 (f a.2)) m).get? name =
      joined (m.get? name) ((l.get? name).map f) := by
  induction l generalizing m with
  | nil => rfl
  | cons a l ih =>
    obtain ⟨key, values⟩ := a
    obtain ⟨hnew, hrest⟩ := List.nodup_cons.mp hl
    rw [List.foldl_cons, ih hrest, get?_extend, get?_cons]
    by_cases h : name = key
    · rw [if_pos h, if_pos h, h, get?_eq_none hnew]
      rfl
    · rw [if_neg h, if_neg h]

/-! ## Names that occur once -/

theorem isProper_filter (h : m.IsProper) (p : String × List α → Bool) :
    IsProper (m.filter p) := List.Nodup.sublist (List.filter_sublist.map Prod.fst) h

theorem mem_names_extend {key : String} {values : List α} {m : Attributes α} :
    name ∈ (m.extend key values).map Prod.fst ↔ name = key ∨ name ∈ m.map Prod.fst := by
  induction m with
  | nil => simp [extend]
  | cons a m ih =>
    obtain ⟨other, vs⟩ := a
    rw [extend]
    by_cases h : other = key
    · simp [h]
    · rw [if_neg h, List.map_cons, List.mem_cons, ih, List.map_cons, List.mem_cons]
      exact or_left_comm

theorem isProper_extend (h : m.IsProper) (key : String) (values : List α) :
    (m.extend key values).IsProper := by
  induction m with
  | nil => exact List.nodup_singleton key
  | cons a m ih =>
    obtain ⟨other, vs⟩ := a
    obtain ⟨hnew, hrest⟩ := List.nodup_cons.mp h
    rw [extend]
    by_cases hkey : other = key
    · rw [if_pos hkey]
      exact h
    · rw [if_neg hkey]
      apply List.nodup_cons.mpr
      refine ⟨?_, ih hrest⟩
      intro hmem
      rcases mem_names_extend.mp hmem with he | hmem
      · exact hkey he
      · exact hnew hmem

theorem isProper_extendAll (f : List β → List α) (l : Attributes β) (h : m.IsProper) :
    IsProper (l.foldl (fun m a => m.extend a.1 (f a.2)) m) := by
  induction l generalizing m with
  | nil => exact h
  | cons a l ih => exact ih (isProper_extend h a.1 (f a.2))

end Attributes

/-! ## Entries -/

namespace Entry

/-- whether a name occurs once in both kinds of attributes -/
structure IsProper (e : Entry) : Prop where
  attrs : e.attrs.IsProper
  binAttrs : e.binAttrs.IsProper

/-- whether two entries differ at most in the order of their attributes -/
structure Same (e e' : Entry) : Prop where
  dn : e.dn = e'.dn
  attrs : e.attrs.Same e'.attrs
  binAttrs : e.binAttrs.Same e'.binAttrs

end Entry

namespace BinaryAttributes

open Attributes

variable {b : BinaryAttributes} {e e' : Entry}

/-- `e'` is `e` with its binary attributes where they belong, and nothing else changed. -/
structure Sorts (b : BinaryAttributes) (e e' : Entry) : Prop where
  dn : e'.dn = e.dn
  gone : ∀ name, b.holds name = true → e'.attrs.get? name = none
  moved : ∀ name values, b.holds name = true → e.attrs.get? name = some values →
    e'.binAttrs.get? name = some ((e.binAttrs.get? name).getD [] ++ values.map Utf8.bytesOf)
  stays : ∀ name, b.holds name = true → e.attrs.get? name = none →
    e'.binAttrs.get? name = e.binAttrs.get? name
  other : ∀ name, b.holds name = false →
    e'.attrs.get? name = e.attrs.get? name ∧ e'.binAttrs.get? name = e.binAttrs.get? name

/-- the values of an attribute in bytes -/
def inBytes (values : Option (List String)) : Option (List (List UInt8)) :=
  values.map (List.map Utf8.bytesOf)

@[simp]
theorem inBytes_none : inBytes none = none := rfl

@[simp]
theorem inBytes_some (values : List String) :
    inBytes (some values) = some (values.map Utf8.bytesOf) := rfl

/-- What sorting means, name by name. -/
theorem sorts_iff : b.Sorts e e' ↔ e'.dn = e.dn ∧ ∀ name,
    e'.attrs.get? name = (if b.holds name then none else e.attrs.get? name) ∧
    e'.binAttrs.get? name = if b.holds name then
      joined (e.binAttrs.get? name) (inBytes (e.attrs.get? name)) else e.binAttrs.get? name := by
  constructor
  · intro h
    refine ⟨h.dn, fun name => ?_⟩
    cases hname : b.holds name with
    | false => simpa using h.other name hname
    | true =>
      refine ⟨h.gone name hname, ?_⟩
      cases hvalues : e.attrs.get? name with
      | none => exact h.stays name hname hvalues
      | some values => exact h.moved name values hname hvalues
  · rintro ⟨hdn, h⟩
    refine ⟨hdn, ?_, ?_, ?_, ?_⟩
    · intro name hname
      simpa [hname] using (h name).1
    · intro name values hname hvalues
      simpa [hname, hvalues] using (h name).2
    · intro name hname hvalues
      simpa [hname, hvalues] using (h name).2
    · intro name hname
      simpa [hname] using h name

/-- An entry is sorted in one way. -/
theorem Sorts.same {e₁ e₂ : Entry} (h₁ : b.Sorts e e₁) (h₂ : b.Sorts e e₂) : e₁.Same e₂ := by
  obtain ⟨hdn₁, hget₁⟩ := sorts_iff.mp h₁
  obtain ⟨hdn₂, hget₂⟩ := sorts_iff.mp h₂
  refine ⟨hdn₁.trans hdn₂.symm, ?_, ?_⟩
  · intro name
    rw [(hget₁ name).1, (hget₂ name).1]
  · intro name
    rw [(hget₁ name).2, (hget₂ name).2]

/-- Only the attributes count, not their order. -/
theorem Sorts.of_same {e₁ e₂ : Entry} (hsame : e₁.Same e₂) (h : b.Sorts e₁ e') : b.Sorts e₂ e' := by
  obtain ⟨hdn, hget⟩ := sorts_iff.mp h
  apply sorts_iff.mpr
  refine ⟨hdn.trans hsame.dn, fun name => ?_⟩
  rw [← hsame.attrs name, ← hsame.binAttrs name]
  exact hget name

/-! ## At once -/

theorem sorts_classify (he : e.IsProper) : b.Sorts e (b.classify e) := by
  apply sorts_iff.mpr
  refine ⟨rfl, fun name => ⟨?_, ?_⟩⟩
  · show get? (e.attrs.filter fun a => !b.holds a.1) name = _
    rw [get?_filter (fun key => !b.holds key)]
    cases b.holds name <;> rfl
  · have hproper := isProper_filter he.attrs fun a => b.holds a.1
    show get? (List.foldl _ e.binAttrs (e.attrs.filter fun a => b.holds a.1)) name = _
    rw [get?_extendAll (List.map Utf8.bytesOf) hproper, get?_filter]
    cases b.holds name <;> rfl

theorem isProper_classify (he : e.IsProper) : (b.classify e).IsProper :=
  ⟨isProper_filter he.attrs _, isProper_extendAll _ _ he.binAttrs⟩

theorem not_holds_of_mem_classify : ∀ a ∈ (b.classify e).attrs, b.holds a.1 = false := by
  intro a ha
  have hkept := (List.mem_filter.mp ha).2
  simpa using hkept

/-- Nothing is left to be moved. -/
theorem classify_classify (b : BinaryAttributes) (e : Entry) :
    b.classify (b.classify e) = b.classify e := by
  have hkept : (b.classify e).attrs.filter (fun a => !b.holds a.1) = (b.classify e).attrs := by
    apply List.filter_eq_self.mpr
    intro a ha
    rw [not_holds_of_mem_classify a ha]
    rfl
  have hnone : (b.classify e).attrs.filter (fun a => b.holds a.1) = [] := by
    apply List.filter_eq_nil_iff.mpr
    intro a ha
    rw [not_holds_of_mem_classify a ha]
    exact Bool.false_ne_true
  rw [classify, hkept, hnone]
  rfl

/-! ## One attribute after the other -/

/-- an entry with the values of one attribute moved, if it has any -/
def move (e : Entry) (name : String) : Entry :=
  match e.attrs.get? name with
  | none => e
  | some values =>
    { e with
      attrs := e.attrs.filter fun a => a.1 != name
      binAttrs := e.binAttrs.extend name (values.map Utf8.bytesOf) }

/-- One move changes what stands under one name. -/
theorem get?_move (e : Entry) (key name : String) :
    (move e key).attrs.get? name = (if name = key then none else e.attrs.get? name) ∧
    (move e key).binAttrs.get? name = if name = key then
      joined (e.binAttrs.get? name) (inBytes (e.attrs.get? name)) else e.binAttrs.get? name := by
  unfold move
  cases hvalues : e.attrs.get? key with
  | none =>
    by_cases h : name = key
    · simp [h, hvalues]
    · simp [h]
  | some values =>
    constructor
    · show get? (e.attrs.filter fun a => a.1 != key) name = _
      rw [get?_filter (fun other => other != key)]
      by_cases h : name = key <;> simp [h]
    · show get? (e.binAttrs.extend key (values.map Utf8.bytesOf)) name = _
      rw [get?_extend]
      by_cases h : name = key
      · simp [h, hvalues]
      · simp [h]

/-- Many moves change what stands under their names.  The second move of a name finds nothing. -/
theorem get?_moveAll (names : List String) (e : Entry) (name : String) :
    (names.foldl move e).attrs.get? name = (if name ∈ names then none else e.attrs.get? name) ∧
    (names.foldl move e).binAttrs.get? name = if name ∈ names then
      joined (e.binAttrs.get? name) (inBytes (e.attrs.get? name)) else e.binAttrs.get? name := by
  induction names generalizing e with
  | nil => simp
  | cons key names ih =>
    obtain ⟨hattrs, hbin⟩ := ih (move e key)
    obtain ⟨hstep, hstepBin⟩ := get?_move e key name
    rw [List.foldl_cons, hattrs, hbin, hstep, hstepBin]
    -- a name that comes once more has left the text attributes by then
    by_cases hkey : name = key
    · by_cases hmem : name ∈ names <;> simp [hkey]
    · by_cases hmem : name ∈ names <;> simp [hkey, hmem]

theorem dn_moveAll (names : List String) (e : Entry) : (names.foldl move e).dn = e.dn := by
  induction names generalizing e with
  | nil => rfl
  | cons key names ih =>
    rw [List.foldl_cons, ih]
    unfold move
    cases e.attrs.get? key <;> rfl

/-- the names of the text attributes that are binary -/
def textNames (b : BinaryAttributes) (e : Entry) : List String :=
  (e.attrs.filter fun a => b.holds a.1).map Prod.fst

theorem mem_textNames_iff {name : String} :
    name ∈ b.textNames e ↔ b.holds name = true ∧ name ∈ e.attrs.map Prod.fst := by
  simp [textNames, and_comm]

/-- The binary attributes may be moved in any order. -/
theorem sorts_moveAll {names : List String} (h : names.Perm (b.textNames e)) :
    b.Sorts e (names.foldl move e) := by
  apply sorts_iff.mpr
  refine ⟨dn_moveAll names e, fun name => ?_⟩
  obtain ⟨hattrs, hbin⟩ := get?_moveAll names e name
  have hmem : name ∈ names ↔ b.holds name = true ∧ name ∈ e.attrs.map Prod.fst :=
    h.mem_iff.trans mem_textNames_iff
  rw [hattrs, hbin]
  cases hname : b.holds name with
  | false => simp [hmem, hname]
  | true =>
    by_cases hin : name ∈ e.attrs.map Prod.fst
    · simp [hmem, hname, hin]
    · simp [hmem, hname, hin, get?_eq_none hin]

/-! ## Both -/

/-- **No value is lost, changed or put out of order when the binary attributes of an entry are
sorted out, whatever the order in which its attributes are kept or moved**, and sorting once is
enough. -/
theorem classify_conserves (b : BinaryAttributes) {e : Entry} (he : e.IsProper) :
    b.Sorts e (b.classify e) ∧ (b.classify e).IsProper ∧
      (∀ a ∈ (b.classify e).attrs, b.holds a.1 = false) ∧
      (∀ e', e'.IsProper → e'.Same e → (b.classify e').Same (b.classify e)) ∧
      (∀ names : List String, names.Perm (b.textNames e) → (names.foldl move e).Same (b.classify e)) ∧
      b.classify (b.classify e) = b.classify e := by
  refine ⟨sorts_classify he, isProper_classify he, not_holds_of_mem_classify, ?_, ?_,
    classify_classify b e⟩
  · intro e' he' hsame
    have hsorts : b.Sorts e (b.classify e') := (sorts_classify he').of_same hsame
    exact hsorts.same (sorts_classify he)
  · intro names hnames
    exact (sorts_moveAll hnames).same (sorts_classify he)

/-- an attribute with both kinds of values, one whose name stands among the binary ones although it is
none, and one that is binary by its option -/
def unsorted : Entry where
  dn := "cn=x"
  attrs := [("photo;Binary", ["é"]), ("cn", ["x", "y"]), ("objectGUID", ["ab", ""])]
  binAttrs := [("objectGUID", [[1, 5]]), ("cn", [[9]])]

/-- the same attributes in another order -/
def reordered : Entry where
  dn := "cn=x"
  attrs := [("objectGUID", ["ab", ""]), ("photo;Binary", ["é"]), ("cn", ["x", "y"])]
  binAttrs := [("cn", [[9]]), ("objectGUID", [[1, 5]])]

theorem classify_conserves_unsorted : unsorted.IsProper ∧ reordered.Same unsorted ∧
    ((of []).classify unsorted).binAttrs.get? "objectGUID" = some [[1, 5], [97, 98], []] ∧
    ((of []).classify unsorted).binAttrs.get? "photo;Binary" = some [[0xC3, 0xA9]] ∧
    ((of []).classify unsorted).attrs.get? "cn" = some ["x", "y"] ∧
    ((of []).classify reordered).Same ((of []).classify unsorted) ∧
    (["objectGUID", "photo;Binary"].foldl move unsorted).Same ((of []).classify unsorted) := by
  have hproper : unsorted.IsProper := by
    constructor
    · show List.Nodup _
      decide
    · show List.Nodup _
      decide
  have hproper' : reordered.IsProper := by
    constructor
    · show List.Nodup _
      decide
    · show List.Nodup _
      decide
  have hsame : reordered.Same unsorted := by
    refine ⟨rfl, ?_, ?_⟩
    · exact same_of_perm hproper'.attrs (List.perm_append_singleton ("objectGUID", ["ab", ""]) _).symm
    · exact same_of_perm hproper'.binAttrs (List.Perm.swap _ _ [])
  obtain ⟨hsorts, -, -, horder, hmoves, -⟩ := classify_conserves (of []) hproper
  refine ⟨hproper, hsame, ?_, ?_, ?_, horder _ hproper' hsame, hmoves _ ?_⟩
  · exact hsorts.moved "objectGUID" _ (by decide) rfl
  · exact hsorts.moved "photo;Binary" _ (by decide) rfl
  · exact (hsorts.other "cn" (by decide)).1
  · have hnames : (of []).textNames unsorted = ["photo;Binary", "objectGUID"] := by decide
    rw [hnames]
    exact List.Perm.swap _ _ []

end BinaryAttributes

end DirectoryClient
