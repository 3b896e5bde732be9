import DirectoryClient.Proofs.Address
import DirectoryClient.Proofs.Config.Building

/-!
# Hosts in other spellings

The same machine may be named in several ways, and validation compares texts.

* `IsHostName`                what is no address is a name;
* `hostFlaw_of_isHostName`, `hostFlaw_of_parse`    names and addresses are looked up apart;
* `Respelled`                 the other spellings of a host;
* `Recognised`                those of them that validation takes for the same host;
* `hostFlaw_iff_of_respelled` a respelled host is refused if it was before and is recognised;
* `Config.validate_eq_ok_iff` what a valid configuration is;
* `refused_iff_of_respelled`  the same for hosts and for whole configurations.
-/

namespace DirectoryClient

open DirectoryClient.Text

/-! ## Names -/

def IsHostName (host : String) : Prop :=
  IPv4.parse host.toList = none ∧ IPv6.parse host.toList = none

/-- whether a name in lower case is blocked or below a blocked one -/
def IsBlockedName (name : List Char) : Prop :=
  ∃ b ∈ blockedNames, name = b.toList ∨ ('.' :: b.toList) <:+ name

/-- whether a host is a name below a blocked one -/
def IsBelowBlocked (host : String) : Prop :=
  ∃ b ∈ blockedNames, ('.' :: b.toList) <:+ lowercase host.toList

theorem isNameUnder_iff {blocked name : List Char} :
    isNameUnder blocked name = true ↔ name = blocked ∨ ('.' :: blocked) <:+ name := by
  rw [isNameUnder, Bool.or_eq_true, beq_iff_eq, List.isSuffixOf_iff_suffix]

/-- Addresses have no other characters than theirs. -/
theorem isHostName_of_mem {host : String} {c : Char} (hc : c ∈ host.toList)
    (hn : isAddressChar c = false) : IsHostName host := by
  constructor <;> refine Option.eq_none_iff_forall_ne_some.mpr fun x hx => ?_
  · rw [IPv4.isAddressChar_of_parse hx c hc] at hn
    cases hn
  · rw [IPv6.isAddressChar_of_parse hx c hc] at hn
    cases hn

theorem isAddressChar_of_not_isHostName {host : String} (h : ¬ IsHostName host) :
    ∀ c ∈ host.toList, isAddressChar c = true := by
  intro c hc
  by_contra hn
  exact h (isHostName_of_mem hc (Bool.eq_false_iff.mpr hn))

theorem hostFlaw_of_isHostName {host : String} (h : IsHostName host) :
    (hostFlaw host).isSome = true ↔ IsBlockedName (lowercase host.toList) := by
  have hany : (blockedNames.any fun b => isNameUnder b.toList (lowercase host.toList)) = true ↔
      IsBlockedName (lowercase host.toList) := by
    simp only [List.any_eq_true, isNameUnder_iff, IsBlockedName]
  unfold hostFlaw
  rw [h.1, h.2, ← hany]
  dsimp only
  split <;> simp_all

/-! ### Blocked names -/

theorem blockedNames_char : ∀ b ∈ blockedNames, 'o' ∈ b.toList := by decide

theorem blockedNames_last : ∀ b ∈ blockedNames, ∃ c ∈ b.toList.getLast?,
    isBlank c = false ∧ c ≠ '.' ∧ c ≠ ']' := by
  have h : ∀ b ∈ blockedNames,
      b.toList.getLast?.any (fun c => !isBlank c && c != '.' && c != ']') = true := by decide
  simpa [Option.any_eq_true, and_assoc] using h

theorem blockedNames_first : ∀ b ∈ blockedNames, ∃ c ∈ b.toList.head?, isBlank c = false := by
  have h : ∀ b ∈ blockedNames, b.toList.head?.any (fun c => !isBlank c) = true := by decide
  simpa [Option.any_eq_true] using h

theorem isBlockedName_of_isBelowBlocked {host : String} (h : IsBelowBlocked host) :
    IsBlockedName (lowercase host.toList) := by
  obtain ⟨b, hb, hsuffix⟩ := h
  exact ⟨b, hb, .inr hsuffix⟩

theorem getLast?_of_isBlockedName {s : List Char} (h : IsBlockedName s) :
    ∃ c ∈ s.getLast?, isBlank c = false ∧ c ≠ '.' ∧ c ≠ ']' := by
  obtain ⟨b, hb, rfl | ⟨front, rfl⟩⟩ := h
  · exact blockedNames_last b hb
  · obtain ⟨c, hc, hn⟩ := blockedNames_last b hb
    refine ⟨c, ?_, hn⟩
    rw [List.getLast?_append, List.getLast?_cons, hc]
    rfl

/-- No address is blocked as a name. -/
theorem isHostName_of_isBelowBlocked {host : String} (h : IsBelowBlocked host) :
    IsHostName host := by
  by_contra hn
  have hchars := isAddressChar_of_not_isHostName hn
  have hlower : lowercase host.toList = asciiLower host.toList :=
    lowercase_ascii _ fun c hc => toNat_lt_of_isAddressChar (hchars c hc)
  obtain ⟨b, hb, hsuffix⟩ := h
  rw [hlower] at hsuffix
  have ho := hsuffix.subset (List.mem_cons_of_mem _ (blockedNames_char b hb))
  obtain ⟨c, hc, he⟩ := List.mem_map.mp ho
  have haddress := hchars c hc
  rw [← isAddressChar_toLower, he] at haddress
  exact absurd haddress (by decide)

/-- the characters that no blocked name ends with -/
def IsOuter (c : Char) : Prop := isBlank c = true ∨ c = '.' ∨ c = ']'

theorem not_isBlockedName_append {c : Char} (hc : IsOuter c) (s : List Char) :
    ¬ IsBlockedName (lowercase (s ++ [c])) := by
  intro h
  have hsigma : c ≠ capitalSigma := by
    rintro rfl
    rcases hc with hb | hp | hr
    · exact absurd hb (by decide)
    · exact absurd hp (by decide)
    · exact absurd hr (by decide)
  have hlower : lowerChar c = [c] := by
    rcases hc with hb | rfl | rfl
    · exact lowerChar_of_isBlank hb
    · decide
    · decide
  obtain ⟨front, hfront⟩ := exists_lowercase_append hsigma s
  obtain ⟨d, hd, hblank, hpoint, hbracket⟩ := getLast?_of_isBlockedName h
  rw [hfront, hlower, List.getLast?_append] at hd
  obtain rfl : c = d := Option.some.inj hd
  rcases hc with hb | hp | hr
  · rw [hb] at hblank
    cases hblank
  · exact hpoint hp
  · exact hbracket hr

/-! ## Respelling a host -/

/-- A text and another spelling of the host that it names. -/
inductive Respelled : String → String → Prop
  /-- a four-byte address in the place of the last two of eight pieces -/
  | mapped {host : String} (h : (IPv4.parse host.toList).isSome = true) :
    Respelled host ("::ffff:" ++ host)
  /-- an address of eight pieces in brackets -/
  | bracketed {host : String} (h : (IPv6.parse host.toList).isSome = true) :
    Respelled host ("[" ++ host ++ "]")
  /-- a name with the root of all names behind it -/
  | dotted {host : String} (h : IsHostName host) : Respelled host (host ++ ".")
  | cased {host other : String} (h : IsHostName host) (hc : sameIgnoringCase host other = true) :
    Respelled host other
  | padded {host before after : String} (hb : blank before = true) (ha : blank after = true) :
    Respelled host (before ++ host ++ after)

/-- whether validation takes a text for the same host as another one -/
def Recognised (host other : String) : Prop :=
  sameIgnoringCase host other = true ∨
    (IsBelowBlocked host ∧ ∃ before, blank before = true ∧ other = before ++ host)

/-- A text is a spelling of itself. -/
theorem Respelled.refl (host : String) : Respelled host host := by
  have h : Respelled host ("" ++ host ++ "") := .padded rfl rfl
  rwa [String.empty_append, String.append_empty] at h

section
variable {host other : String}

theorem length_of_sameIgnoringCase (h : sameIgnoringCase host other = true) :
    host.toList.length = other.toList.length := by
  have hlower : asciiLower host.toList = asciiLower other.toList := beq_iff_eq.mp h
  simpa [asciiLower] using congrArg List.length hlower

/-- A text that ends with one more character is no longer blocked, nor recognised. -/
theorem hostFlaw_iff_of_outer {s : List Char} {c : Char} (hc : IsOuter c)
    (ho : other.toList = s ++ [c]) (hname : IsHostName other)
    (hlength : host.toList.length < other.toList.length) :
    (hostFlaw other).isSome = true ↔ (hostFlaw host).isSome = true ∧ Recognised host other := by
  refine iff_of_false ?_ ?_
  · rw [hostFlaw_of_isHostName hname, ho]
    exact not_isBlockedName_append hc s
  · rintro ⟨-, hsame | ⟨hbelow, before, -, rfl⟩⟩
    · exact absurd (length_of_sameIgnoringCase hsame) (Nat.ne_of_lt hlength)
    · have hblocked := isBlockedName_of_isBelowBlocked hbelow
      rcases List.eq_nil_or_concat' host.toList with hnil | ⟨front, d, hd⟩
      · rw [hnil] at hblocked
        obtain ⟨d, hd, -⟩ := getLast?_of_isBlockedName hblocked
        cases hd
      · -- the host itself ends with the character
        have hlast : d = c := by
          have hends := congrArg List.getLast? ho
          rw [String.toList_append, hd] at hends
          simpa using hends
        rw [hd, hlast] at hblocked
        exact not_isBlockedName_append hc front hblocked

theorem hostFlaw_iff_of_mapped (h : (IPv4.parse host.toList).isSome = true) :
    (hostFlaw ("::ffff:" ++ host)).isSome = true ↔
      (hostFlaw host).isSome = true ∧ Recognised host ("::ffff:" ++ host) := by
  obtain ⟨x, hx⟩ := Option.isSome_iff_exists.mp h
  have htext : ("::ffff:" ++ host).toList = "::ffff:".toList ++ host.toList := String.toList_append
  refine iff_of_false ?_ ?_
  · have hfour : IPv4.parse ("::ffff:" ++ host).toList = none := by
      refine Option.eq_none_iff_forall_ne_some.mpr fun y hy => ?_
      have hcolon := IPv4.chars_of_parse hy ':' (by rw [htext]; simp)
      exact absurd hcolon (by decide)
    unfold hostFlaw
    rw [hfour, htext, IPv6.parse_mapped hx]
    simp [isBlockedSix, IPv6.isLoopback, IPv6.isUnspecified]
  · rintro ⟨-, hsame | ⟨hbelow, -⟩⟩
    · have hlength := length_of_sameIgnoringCase hsame
      rw [htext, List.length_append] at hlength
      have hseven : "::ffff:".toList.length = 7 := rfl
      omega
    · have hname := (isHostName_of_isBelowBlocked hbelow).1
      rw [hx] at hname
      cases hname

theorem hostFlaw_iff_of_bracketed : (hostFlaw ("[" ++ host ++ "]")).isSome = true ↔
    (hostFlaw host).isSome = true ∧ Recognised host ("[" ++ host ++ "]") := by
  have htext : ("[" ++ host ++ "]").toList = ('[' :: host.toList) ++ [']'] := by simp
  refine hostFlaw_iff_of_outer (.inr (.inr rfl)) htext ?_ ?_
  · exact isHostName_of_mem (htext ▸ List.mem_append_left _ List.mem_cons_self) (by decide)
  · rw [htext, List.length_append, List.length_cons]
    omega

theorem hostFlaw_iff_of_dotted : (hostFlaw (host ++ ".")).isSome = true ↔
    (hostFlaw host).isSome = true ∧ Recognised host (host ++ ".") := by
  have htext : (host ++ ".").toList = host.toList ++ ['.'] := by simp
  refine hostFlaw_iff_of_outer (.inr (.inl rfl)) htext ?_ ?_
  · rw [IsHostName, htext]
    exact ⟨IPv4.parse_append_point _, IPv6.parse_append_point _⟩
  · rw [htext, List.length_append]
    exact Nat.lt_succ_self _

theorem hostFlaw_iff_of_cased (h : IsHostName host) (hc : sameIgnoringCase host other = true) :
    (hostFlaw other).isSome = true ↔ (hostFlaw host).isSome = true ∧ Recognised host other := by
  have hlower : asciiLower host.toList = asciiLower other.toList := beq_iff_eq.mp hc
  have hother : IsHostName other := by
    refine ⟨?_, ?_⟩
    · rw [← IPv4.parse_asciiLower, ← hlower, IPv4.parse_asciiLower, h.1]
    · rw [← IPv6.parse_asciiLower, ← hlower, IPv6.parse_asciiLower, h.2]
  rw [hostFlaw_of_isHostName hother, hostFlaw_of_isHostName h, lowercase_of_asciiLower hlower]
  exact ⟨fun hb => ⟨hb, .inl hc⟩, And.left⟩

end

/-! ### Blanks -/

theorem isAddressChar_of_isBlank {c : Char} (h : isBlank c = true) : isAddressChar c = false := by
  refine Bool.eq_false_iff.mpr fun ha => ?_
  have hapart : isAddressChar c = true → isBlank c = false :=
    forall_ascii (toNat_lt_of_isAddressChar ha) (by decide)
  rw [hapart ha] at h
  cases h

/-- Blanks in front are no part of what stands below a blocked name. -/
theorem isBlockedName_blanks_append {blanks s : List Char} (hne : blanks ≠ [])
    (h : ∀ c ∈ blanks, isBlank c = true) :
    IsBlockedName (blanks ++ s) ↔ ∃ b ∈ blockedNames, ('.' :: b.toList) <:+ s := by
  constructor
  · rintro ⟨b, hb, heq | hsuffix⟩
    · obtain ⟨c, hc, hfirst⟩ := blockedNames_first b hb
      rw [← heq, List.head?_append_of_ne_nil _ hne] at hc
      rw [h c (List.mem_of_mem_head? hc)] at hfirst
      cases hfirst
    · refine ⟨b, hb, ?_⟩
      rcases List.suffix_or_suffix_of_suffix hsuffix (List.suffix_append blanks s) with hin | hout
      · exact hin
      · -- otherwise the point would be one of the blanks
        obtain ⟨front, hfront⟩ := hsuffix
        obtain ⟨inner, hinner⟩ := hout
        cases inner with
        | nil => exact hinner ▸ List.suffix_rfl
        | cons d inner =>
          obtain ⟨rfl, -⟩ := List.cons.inj hinner
          rw [← hinner, ← List.append_assoc] at hfront
          have hmem : '.' ∈ blanks := by
            rw [← List.append_cancel_right hfront]
            simp
          exact absurd (h '.' hmem) (by decide)
  · rintro ⟨b, hb, hsuffix⟩
    exact ⟨b, hb, .inr (hsuffix.trans (List.suffix_append blanks s))⟩

section
variable {host before after : String} (hb : blank before = true)
include hb

theorem hostFlaw_iff_of_indented : (hostFlaw (before ++ host)).isSome = true ↔
    (hostFlaw host).isSome = true ∧ Recognised host (before ++ host) := by
  have hblanks : ∀ c ∈ before.toList, isBlank c = true := List.all_eq_true.mp hb
  by_cases hne : before.toList = []
  · obtain rfl : before = "" := String.toList_eq_nil_iff.mp hne
    rw [String.empty_append]
    exact ⟨fun hf => ⟨hf, .inl (beq_self_eq_true _)⟩, And.left⟩
  · obtain ⟨c, hc⟩ := List.exists_mem_of_ne_nil _ hne
    have hname : IsHostName (before ++ host) := by
      refine isHostName_of_mem (c := c) ?_ (isAddressChar_of_isBlank (hblanks c hc))
      rw [String.toList_append]
      exact List.mem_append_left _ hc
    have hbelow : (hostFlaw (before ++ host)).isSome = true ↔ IsBelowBlocked host := by
      rw [hostFlaw_of_isHostName hname, String.toList_append, lowercase_blanks_append hblanks]
      exact isBlockedName_blanks_append hne hblanks
    rw [hbelow]
    constructor
    · intro h
      refine ⟨?_, .inr ⟨h, before, hb, rfl⟩⟩
      exact (hostFlaw_of_isHostName (isHostName_of_isBelowBlocked h)).mpr
        (isBlockedName_of_isBelowBlocked h)
    · rintro ⟨-, hsame | ⟨h, -⟩⟩
      · have hlength := length_of_sameIgnoringCase hsame
        have hpos : 0 < before.toList.length := List.length_pos_of_mem hc
        rw [String.toList_append, List.length_append] at hlength
        omega
      · exact h

theorem hostFlaw_iff_of_padded (ha : blank after = true) :
    (hostFlaw (before ++ host ++ after)).isSome = true ↔
      (hostFlaw host).isSome = true ∧ Recognised host (before ++ host ++ after) := by
  rcases List.eq_nil_or_concat' after.toList with hnil | ⟨front, c, hc⟩
  · obtain rfl : after = "" := String.toList_eq_nil_iff.mp hnil
    rw [String.append_empty]
    exact hostFlaw_iff_of_indented hb
  · have hblank : isBlank c = true :=
      List.all_eq_true.mp ha c (hc ▸ List.mem_append_right _ (List.mem_singleton_self c))
    have htext : (before ++ host ++ after).toList =
        (before.toList ++ host.toList ++ front) ++ [c] := by
      simp only [String.toList_append, hc, List.append_assoc]
    refine hostFlaw_iff_of_outer (.inl hblank) htext ?_ ?_
    · refine isHostName_of_mem (c := c) ?_ (isAddressChar_of_isBlank hblank)
      rw [htext]
      exact List.mem_append_right _ (List.mem_singleton_self c)
    · rw [htext]
      simp only [List.length_append, List.length_singleton]
      omega

end

/-- **A respelled host is refused exactly if the host was and is recognised.** -/
theorem hostFlaw_iff_of_respelled {host other : String} (h : Respelled host other) :
    (hostFlaw other).isSome = true ↔ (hostFlaw host).isSome = true ∧ Recognised host other := by
  cases h with
  | mapped h => exact hostFlaw_iff_of_mapped h
  | bracketed => exact hostFlaw_iff_of_bracketed
  | dotted => exact hostFlaw_iff_of_dotted
  | cased h hc => exact hostFlaw_iff_of_cased h hc
  | padded hb ha => exact hostFlaw_iff_of_padded hb ha

/-! ## Configurations -/

theorem dnFlaw_eq_none_iff {field text : String} :
    dnFlaw field text = none ↔ ∃ d, Dn.parse text = .ok d := by
  refine ⟨parse_of_dnFlaw, ?_⟩
  rintro ⟨d, hd⟩
  rw [dnFlaw, hd]

theorem bind_dnFlaw_eq_none_iff {field : String} {context : Option String} :
    context.bind (dnFlaw field) = none ↔ IsRead context := by
  refine ⟨isRead_of_bind, fun h => ?_⟩
  cases context with
  | none => rfl
  | some text => exact dnFlaw_eq_none_iff.mpr (h text rfl)

/-- whether a host may be dialled -/
def IsDialable (host : String) : Prop := blank host = false ∧ hostFlaw host = none

namespace ServerConfig

/-- whether the names in a server's part of a configuration can be read -/
def IsReadable (s : ServerConfig) : Prop :=
  IsRead s.baseContext ∧ IsRead (s.bindDn.filter (· ≠ ""))

theorem flaw_eq_none_iff {i : Nat} {s : ServerConfig} :
    s.flaw i = none ↔ IsDialable s.host ∧ s.IsReadable := by
  unfold flaw IsDialable IsReadable
  cases hb : blank s.host with
  | true => simp
  | false =>
    simp only [Bool.false_eq_true, if_false, Option.orElse_eq_orElse, Option.orElse_eq_or,
      Option.or_eq_none_iff, bind_dnFlaw_eq_none_iff, true_and]

end ServerConfig

namespace Config

/-- the hosts in a configuration, the default server's first -/
def hosts (c : Config) : List String := c.host :: c.servers.map (·.host)

/-- a configuration without its hosts -/
def unhosted (c : Config) : Config :=
  { c with host := "", servers := c.servers.map fun s => { s with host := "" } }

/-- whether the names in a configuration can be read -/
def IsReadable (c : Config) : Prop :=
  (c.bindDn ≠ "" → ∃ d, Dn.parse c.bindDn = .ok d) ∧ IsRead c.baseContext ∧
    ∀ s ∈ c.servers, s.IsReadable

/-- the same configuration, with other spellings of its hosts -/
structure Respelled (c c' : Config) : Prop where
  hosts : List.Forall₂ DirectoryClient.Respelled c.hosts c'.hosts
  rest : c'.unhosted = c.unhosted

theorem isReadable_unhosted {c : Config} : c.unhosted.IsReadable ↔ c.IsReadable := by
  simp only [IsReadable, unhosted, List.forall_mem_map, ServerConfig.IsReadable]

theorem serversFlaw_eq_none_iff {i : Nat} {l : List ServerConfig} :
    serversFlaw i l = none ↔ ∀ s ∈ l, IsDialable s.host ∧ s.IsReadable := by
  induction l generalizing i with
  | nil => exact iff_of_true rfl (List.forall_mem_nil _)
  | cons s l ih =>
    rw [serversFlaw, Option.orElse_eq_orElse, Option.orElse_eq_or, Option.or_eq_none_iff,
      ServerConfig.flaw_eq_none_iff, ih, List.forall_mem_cons]

theorem flaw_eq_none_iff {c : Config} :
    c.flaw = none ↔ c.IsReadable ∧ ∀ host ∈ c.hosts, IsDialable host := by
  have hbind : (if c.bindDn = "" then none else dnFlaw "bind_dn" c.bindDn) = none ↔
      (c.bindDn ≠ "" → ∃ d, Dn.parse c.bindDn = .ok d) := by
    have hread := @dnFlaw_eq_none_iff "bind_dn" c.bindDn
    split <;> simp_all
  unfold flaw IsReadable hosts
  rw [List.forall_mem_cons, List.forall_mem_map]
  cases hb : blank c.host with
  | true => simp [IsDialable, hb]
  | false =>
    simp only [Bool.false_eq_true, if_false, Option.orElse_eq_orElse, Option.orElse_eq_or,
      Option.or_eq_none_iff, hbind, bind_dnFlaw_eq_none_iff, serversFlaw_eq_none_iff, IsDialable, hb,
      true_and, forall_and]
    tauto

theorem validate_eq_ok_iff {c : Config} :
    c.validate = .ok () ↔ c.IsReadable ∧ ∀ host ∈ c.hosts, IsDialable host := by
  rw [← flaw_eq_none_iff]
  refine ⟨flaw_of_validate, fun h => ?_⟩
  rw [validate, h]

/-- whether a respelled host may be dialled, in terms of the host that it was -/
def MayStand (host other : String) : Prop :=
  blank other = false ∧ ¬ ((hostFlaw host).isSome = true ∧ Recognised host other)

theorem forall_isDialable_iff {l l' : List String}
    (h : List.Forall₂ DirectoryClient.Respelled l l') :
    (∀ other ∈ l', IsDialable other) ↔ List.Forall₂ MayStand l l' := by
  induction h with
  | nil => exact iff_of_true (List.forall_mem_nil _) .nil
  | cons hr _ ih =>
    rw [List.forall_mem_cons, List.forall₂_cons, ih, MayStand, ← hostFlaw_iff_of_respelled hr,
      IsDialable, ← Option.not_isSome_iff_eq_none]

/-- **A respelled configuration is valid exactly if its names can be read and none of its hosts is
recognised as one that is refused.** -/
theorem validate_iff_of_respelled {c c' : Config} (h : c.Respelled c') :
    c'.validate = .ok () ↔ c.IsReadable ∧ List.Forall₂ MayStand c.hosts c'.hosts := by
  have hnames : c'.IsReadable ↔ c.IsReadable := by
    rw [← isReadable_unhosted, h.rest, isReadable_unhosted]
  rw [validate_eq_ok_iff, hnames, forall_isDialable_iff h.hosts]

end Config

/-- **Respelled hosts are refused exactly if the hosts were and are recognised, alone as well as in a
configuration.** -/
theorem refused_iff_of_respelled {host other : String} {c c' : Config}
    (h : Respelled host other) (hc : c.Respelled c') :
    ((hostFlaw other).isSome = true ↔ (hostFlaw host).isSome = true ∧ Recognised host other) ∧
      (c'.validate = .ok () ↔ c.IsReadable ∧ List.Forall₂ Config.MayStand c.hosts c'.hosts) :=
  ⟨hostFlaw_iff_of_respelled h, Config.validate_iff_of_respelled hc⟩

/-- three servers, the second of which is as it should be -/
def suspicious (host other : String) : Config where
  host := host
  servers := [{ host := "ldap.example.com" }, { host := other }]

theorem refused_iff_of_respelled_suspicious :
    (hostFlaw " db.LOCALHOST").isSome = true ∧
      (suspicious "localhost" "127.0.0.1").Respelled (suspicious "localhost." "::ffff:127.0.0.1") ∧
      (suspicious "localhost." "::ffff:127.0.0.1").validate = .ok () := by
  have hbelow : IsBelowBlocked "db.LOCALHOST" := ⟨"localhost", by decide, by decide⟩
  have hpadded : Respelled "db.LOCALHOST" (" " ++ "db.LOCALHOST" ++ "") := .padded rfl rfl
  have hdotted : Respelled "localhost" ("localhost" ++ ".") := .dotted ⟨by decide, by decide⟩
  have hmapped : Respelled "127.0.0.1" ("::ffff:" ++ "127.0.0.1") := .mapped (by decide)
  have hconfig : (suspicious "localhost" "127.0.0.1").Respelled
      (suspicious "localhost." "::ffff:127.0.0.1") :=
    ⟨.cons hdotted (.cons (.refl _) (.cons hmapped .nil)), rfl⟩
  have hread : (suspicious "localhost" "127.0.0.1").IsReadable :=
    ⟨fun h => absurd rfl h, nofun, by simp [suspicious, ServerConfig.IsReadable, IsRead]⟩
  have hstand : ∀ {host other : String}, Respelled host other → blank other = false →
      (hostFlaw other).isSome = false → Config.MayStand host other := by
    intro host other hr hb hf
    refine ⟨hb, ?_⟩
    rw [← hostFlaw_iff_of_respelled hr, hf]
    exact Bool.false_ne_true
  obtain ⟨hhost, hvalid⟩ := refused_iff_of_respelled hpadded hconfig
  refine ⟨hhost.mpr ⟨by decide, .inr ⟨hbelow, " ", rfl, by decide⟩⟩, hconfig, hvalid.mpr ⟨hread, ?_⟩⟩
  refine .cons ?_ (.cons ?_ (.cons ?_ .nil))
  · exact hstand hdotted (by decide) (by decide)
  · exact hstand (.refl _) (by decide) (by decide)
  · exact hstand hmapped (by decide) (by decide)

theorem mapped_loopback_accepted : ¬ ∀ host other : String, Respelled host other →
    (hostFlaw host).isSome = true → (hostFlaw other).isSome = true := by
  intro h
  have hmapped : Respelled "127.0.0.1" ("::ffff:" ++ "127.0.0.1") := .mapped (by decide)
  have hrefused := h _ _ hmapped (by decide)
  exact absurd hrefused (by decide)

end DirectoryClient
