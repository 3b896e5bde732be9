import DirectoryClient.Entry
import DirectoryClient.Proofs.Text.Blank
import DirectoryClient.Proofs.Text.Parts
import DirectoryClient.Proofs.Text.Ascii

/-!
# Names of binary attributes

An attribute is asked for by its name, in any letter case and with any options behind semicolons.

* `holds_iff`            an attribute is binary by one of its options or by its name without them;
* `Honours`              whether a configured name is taken for binary however it is asked for;
* `honours_iff_holds`    it is, if it is taken so as it was configured;
* `honours_of_plain`     a configured name without options always is;
* `honours_configured_iff`   which of the other configured names are.
-/

namespace DirectoryClient

open DirectoryClient.Text

/-- an attribute name with options behind it -/
def withOptions (name : String) (options : List String) : String :=
  ";".intercalate (name :: options)

namespace BinaryAttributes

/-- an attribute name without its options, in lower case -/
def baseName (name : String) : String := String.ofList (cutOptions name).1

/-- whether one of the options of an attribute name is `binary` -/
def hasBinaryOption (name : String) : Bool := (cutOptions name).2.any isBinaryOption

theorem holds_iff {b : BinaryAttributes} {name : String} :
    b.holds name = true ↔ hasBinaryOption name = true ∨ baseName name ∈ b.names := by
  simp [holds, hasBinaryOption, baseName]

/-! ## Options -/

theorem semicolon_toLower (c : Char) : (c.toLower == ';') = (c == ';') :=
  apply_toLower (f := (· == ';')) (by decide) c

/-- A name is cut into its base and its options. -/
theorem exists_cutOptions (name : String) : ∃ base options,
    cut (· == ';') name.toList = base :: options ∧ cutOptions name = (asciiLower base, options) := by
  obtain ⟨base, options, h⟩ := List.exists_cons_of_ne_nil (cut_ne_nil (· == ';') name.toList)
  refine ⟨base, options, h, ?_⟩
  unfold cutOptions
  rw [h]

theorem cutOptions_of_plain {name : String} (h : ';' ∉ name.toList) :
    cutOptions name = (asciiLower name.toList, []) := by
  have hcut : cut (· == ';') name.toList = [name.toList] := by
    apply cut_of_forall_not
    intro c hc
    apply beq_false_of_ne
    rintro rfl
    exact h hc
  unfold cutOptions
  rw [hcut]

/-- Options come behind those that a name has. -/
theorem cutOptions_withOptions (name : String) (options : List String) :
    cutOptions (withOptions name options) = ((cutOptions name).1,
      (cutOptions name).2 ++ options.flatMap fun o => cut (· == ';') o.toList) := by
  obtain ⟨base, own, hcut, hname⟩ := exists_cutOptions name
  have hlist : (withOptions name options).toList =
      [';'].intercalate (name.toList :: options.map String.toList) := by
    rw [withOptions, String.toList_intercalate]
    rfl
  have hall : cut (· == ';') (withOptions name options).toList =
      base :: (own ++ options.flatMap fun o => cut (· == ';') o.toList) := by
    rw [hlist, cut_intercalate (by decide), hcut, List.flatMap_map]
    rfl
  rw [hname]
  unfold cutOptions
  rw [hall]

theorem baseName_withOptions (name : String) (options : List String) :
    baseName (withOptions name options) = baseName name := by
  rw [baseName, cutOptions_withOptions, baseName]

theorem hasBinaryOption_withOptions {name : String} (h : hasBinaryOption name = true)
    (options : List String) : hasBinaryOption (withOptions name options) = true := by
  unfold hasBinaryOption at h ⊢
  rw [cutOptions_withOptions, List.any_append, h, Bool.true_or]

theorem withOptions_nil (name : String) : withOptions name [] = name := by
  simp [withOptions]

/-! ## Letter case -/

theorem isBinaryOption_asciiLower (o : List Char) :
    isBinaryOption (asciiLower o) = isBinaryOption o := by
  rw [isBinaryOption, asciiLower_asciiLower, isBinaryOption]

theorem cut_asciiLower (s : List Char) :
    cut (· == ';') (asciiLower s) = (cut (· == ';') s).map asciiLower :=
  cut_map semicolon_toLower s

/-- Letter case changes neither the base nor whether an option is `binary`. -/
theorem baseName_of_sameIgnoringCase {name spelt : String}
    (h : sameIgnoringCase spelt name = true) :
    baseName spelt = baseName name ∧ hasBinaryOption spelt = hasBinaryOption name := by
  obtain ⟨base, options, hcut, hname⟩ := exists_cutOptions name
  obtain ⟨base', options', hcut', hspelt⟩ := exists_cutOptions spelt
  have hlower : asciiLower spelt.toList = asciiLower name.toList := eq_of_beq h
  have hparts := cut_asciiLower spelt.toList
  rw [hlower, cut_asciiLower, hcut, hcut'] at hparts
  obtain ⟨hbase, hoptions⟩ := List.cons.inj hparts
  have hany : ∀ l : List (List Char), (l.map asciiLower).any isBinaryOption = l.any isBinaryOption := by
    intro l
    have hcomp : isBinaryOption ∘ asciiLower = isBinaryOption := funext isBinaryOption_asciiLower
    rw [List.any_map, hcomp]
  constructor
  · rw [baseName, baseName, hname, hspelt, hbase]
  · rw [hasBinaryOption, hasBinaryOption, hname, hspelt, ← hany options, ← hany options']
    exact congrArg (List.any · isBinaryOption) hoptions.symm

/-! ## Names without options -/

section
variable {name : String} (h : ';' ∉ name.toList)
include h

theorem baseName_of_plain : baseName name = asciiLowered name := by
  rw [baseName, cutOptions_of_plain h, asciiLowered]

theorem hasBinaryOption_of_plain : hasBinaryOption name = false := by
  rw [hasBinaryOption, cutOptions_of_plain h]
  rfl

end

theorem not_mem_trimmed {name : String} (h : ';' ∉ name.toList) : ';' ∉ (trimmed name).toList := by
  intro hmem
  rw [trimmed, String.toList_ofList] at hmem
  exact h (mem_of_mem_trim hmem)

theorem not_mem_baseName (name : String) : ';' ∉ (baseName name).toList := by
  obtain ⟨base, options, hcut, hname⟩ := exists_cutOptions name
  have hbase : base ∈ cut (· == ';') name.toList := hcut ▸ List.mem_cons_self
  rw [baseName, hname, String.toList_ofList]
  intro hmem
  obtain ⟨c, hc, hlower⟩ := List.mem_map.mp hmem
  have hplain : (c == ';') = false := not_separates_of_mem_cut hbase c hc
  rw [← semicolon_toLower, hlower] at hplain
  cases hplain

theorem asciiLowered_baseName (name : String) : asciiLowered (baseName name) = baseName name := by
  obtain ⟨base, options, -, hname⟩ := exists_cutOptions name
  rw [asciiLowered, baseName, hname, String.toList_ofList, asciiLower_asciiLower]

/-- A base is binary only by itself. -/
theorem holds_baseName_iff {b : BinaryAttributes} {name : String} :
    b.holds (baseName name) = true ↔ baseName name ∈ b.names := by
  have hplain := not_mem_baseName name
  rw [holds_iff, hasBinaryOption_of_plain hplain, baseName_of_plain hplain, asciiLowered_baseName]
  simp

/-! ## Configured names -/

theorem mem_names_of_iff {more : List String} {name : String} : name ∈ (of more).names ↔
    (name ∈ common ∨ ∃ n ∈ more, asciiLowered (trimmed n) = name) ∧ name ≠ "" := by
  simp [of, or_and_right]

/-- More configured names take nothing away. -/
theorem holds_of_subset {more more' : List String} (hsub : more ⊆ more') {name : String}
    (h : (of more).holds name = true) : (of more').holds name = true := by
  rcases holds_iff.mp h with hoption | hbase
  · exact holds_iff.mpr (.inl hoption)
  · obtain ⟨hknown, hne⟩ := mem_names_of_iff.mp hbase
    apply holds_iff.mpr
    apply Or.inr
    apply mem_names_of_iff.mpr
    refine ⟨hknown.imp_right ?_, hne⟩
    rintro ⟨n, hn, hname⟩
    exact ⟨n, hsub hn, hname⟩

/-- whether a configured name is taken for binary in every letter case and with any options -/
def Honours (b : BinaryAttributes) (name : String) : Prop :=
  ∀ (spelt : String) (options : List String), sameIgnoringCase spelt (trimmed name) = true →
    b.holds (withOptions spelt options) = true

/-- Neither letter case nor more options make a difference, so a name is honoured if it is binary as
it was configured. -/
theorem honours_iff_holds {b : BinaryAttributes} {name : String} :
    b.Honours name ↔ b.holds (trimmed name) = true := by
  constructor
  · intro h
    have hself : sameIgnoringCase (trimmed name) (trimmed name) = true := beq_self_eq_true _
    have hname := h (trimmed name) [] hself
    rwa [withOptions_nil] at hname
  · intro h spelt options hs
    obtain ⟨hbase, hoption⟩ := baseName_of_sameIgnoringCase hs
    rcases holds_iff.mp h with hown | hmem
    · apply holds_iff.mpr
      exact .inl (hasBinaryOption_withOptions (hoption.trans hown) options)
    · apply holds_iff.mpr
      apply Or.inr
      rwa [baseName_withOptions, hbase]

section
variable {more : List String} {name : String}

/-- A configured name without options is honoured. -/
theorem honours_of_plain (hmem : name ∈ more) (hb : blank name = false)
    (hplain : ';' ∉ name.toList) : (of more).Honours name := by
  have hne : asciiLowered (trimmed name) ≠ "" := by
    intro he
    have hnil : trim name.toList = [] := by
      simpa [asciiLowered, asciiLower, trimmed] using congrArg String.toList he
    have hall : blank name = true := trim_eq_nil_iff.mp hnil
    rw [hb] at hall
    cases hall
  rw [honours_iff_holds, holds_iff, baseName_of_plain (not_mem_trimmed hplain)]
  exact .inr (mem_names_of_iff.mpr ⟨.inr ⟨name, hmem, rfl⟩, hne⟩)

/-- A name with options is honoured if they or its base make it binary without it. -/
theorem honours_iff_of_options : (of more).Honours name ↔
    hasBinaryOption (trimmed name) = true ∨ (of more).holds (baseName (trimmed name)) = true := by
  rw [honours_iff_holds, holds_iff, holds_baseName_iff]

end

/-- **A configured name is honoured exactly if it has no options, or one of its options is `binary`,
or its name without options is binary for another reason.**  More names take nothing away. -/
theorem honours_configured_iff (more : List String) :
    (∀ name ∈ more, blank name = false → ((of more).Honours name ↔
      ';' ∉ name.toList ∨ hasBinaryOption (trimmed name) = true ∨
        (of more).holds (baseName (trimmed name)) = true)) ∧
    ∀ more', more ⊆ more' → ∀ name, (of more).holds name = true → (of more').holds name = true := by
  constructor
  · intro name hmem hb
    constructor
    · intro h
      exact .inr (honours_iff_of_options.mp h)
    · rintro (hplain | hother)
      · exact honours_of_plain hmem hb hplain
      · exact honours_iff_of_options.mpr hother
  · intro more' hsub name h
    exact holds_of_subset hsub h

/-- names with blanks around them and with options, and a blank one -/
def configured : List String := [" CustomBlob\t", " ", "Logo;x;Binary", "photo;lang-en", "seal;lang-en"]

theorem honours_configured_iff_mixed :
    (of configured).Honours " CustomBlob\t" ∧ (of configured).Honours "Logo;x;Binary" ∧
      (of configured).Honours "photo;lang-en" ∧ ¬ (of configured).Honours "seal;lang-en" ∧
      (of ("seal" :: configured)).holds "customblob;x" = true := by
  obtain ⟨hconfigured, hmore⟩ := honours_configured_iff configured
  have hplain : (of configured).Honours " CustomBlob\t" :=
    (hconfigured _ (by decide) (by decide)).mpr (.inl (by decide))
  have hoption : (of configured).Honours "Logo;x;Binary" :=
    (hconfigured _ (by decide) (by decide)).mpr (.inr (.inl (by decide)))
  have hbase : (of configured).Honours "photo;lang-en" :=
    (hconfigured _ (by decide) (by decide)).mpr (.inr (.inr (by decide)))
  have hmissed : ¬ (of configured).Honours "seal;lang-en" := by
    rw [hconfigured _ (by decide) (by decide)]
    decide
  exact ⟨hplain, hoption, hbase, hmissed,
    hmore ("seal" :: configured) (List.subset_cons_self _ _) _ (by decide)⟩

theorem optioned_name_missed : ¬ ∀ (more : List String), ∀ name ∈ more, blank name = false →
    (of more).Honours name := by
  intro h
  have hname : (of ["customBlob;lang-en"]).Honours "customBlob;lang-en" :=
    h _ _ List.mem_cons_self (by decide)
  have hself : (of ["customBlob;lang-en"]).holds (withOptions "customBlob;lang-en" []) = true :=
    hname _ _ (by decide)
  exact absurd hself (by decide)

end BinaryAttributes

end DirectoryClient
