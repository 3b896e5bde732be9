import DirectoryClient.Proofs.Text.Parts
import DirectoryClient.Proofs.Url.Escaping
import DirectoryClient.Url.Reading
import Mathlib.Data.List.TakeWhile

/-!
# Reading URLs without surprises

A URL whose parts hold plain characters alone is read part by part.

* `isVisible`, `isHostChar`, `isPlain`   the characters of such a URL, those of its host, and those
                            that every part may hold;
* `siteOf`, `textOf`        a URL up to its port, and with a path;
* `strip_of_visible`        nothing of a visible text is passed over;
* `parseHost_name`          a host of such characters stays as it is;
* `parsePort_digits`        a port is read back from its decimal number;
* `pathText_segment`        a path of one segment stays as it is;
* `parse_siteOf`, `parse_textOf`   the whole URL.
-/

namespace DirectoryClient.Url

open DirectoryClient.Text

def isVisible (c : Char) : Bool := 0x20 < c.toNat && c.toNat < 0x7F

/-- a character that a host may hold and that stands for itself there -/
def isHostChar (c : Char) : Bool := isVisible c && !forbiddenInHost c

/-- a character that separates no parts and that every part may hold -/
def isPlain (c : Char) : Bool := c.isAlphanum || c == '-' || c == '.' || c == '%'

/-- the characters that mean something to a reader of URLs -/
def separators : List Char := ['/', ':', '?', '#', '@', '[']

def schemeOf (secure : Bool) : String := if secure then "ldaps" else "ldap"

/-- a URL without a path -/
def siteOf (secure : Bool) (host : String) (port : UInt16) : String :=
  schemeOf secure ++ "://" ++ host ++ ":" ++ toString port.toNat

/-- a URL with all its parts written out -/
def textOf (secure : Bool) (host : String) (port : UInt16) (path : List Char) : String :=
  schemeOf secure ++ "://" ++ host ++ ":" ++ toString port.toNat ++ "/" ++ String.ofList path

/-! ## Characters -/

theorem toNat_lt_of_isPlain {c : Char} (h : isPlain c = true) : c.toNat < 128 := by
  simp only [isPlain, Bool.or_eq_true, beq_iff_eq] at h
  rcases h with ((h | rfl) | rfl) | rfl
  · exact toNat_lt_of_isAlphanum h
  · decide
  · decide
  · decide

theorem toNat_lt_of_isVisible {c : Char} (h : isVisible c = true) : c.toNat < 128 := by
  simp only [isVisible, Bool.and_eq_true, decide_eq_true_eq] at h
  omega

/-- What the characters of hosts are like. -/
theorem isHostChar_cases {c : Char} (h : isHostChar c = true) :
    isVisible c = true ∧ c ∉ separators ∧ forbiddenInHost c = false ∧ keptInHost c = true := by
  have hvisible : isVisible c = true := (Bool.and_eq_true_iff.mp h).1
  have hcases : isHostChar c = true → isVisible c = true ∧ c ∉ separators ∧
      forbiddenInHost c = false ∧ keptInHost c = true :=
    forall_ascii (toNat_lt_of_isVisible hvisible) (by decide)
  exact hcases h

/-- What plain characters are like. -/
theorem isPlain_cases {c : Char} (h : isPlain c = true) :
    isVisible c = true ∧ c ∉ separators ∧ isHostChar c = true ∧ keptInPath c = true := by
  have hcases : isPlain c = true → isVisible c = true ∧ c ∉ separators ∧
      isHostChar c = true ∧ keptInPath c = true :=
    forall_ascii (toNat_lt_of_isPlain h) (by decide)
  exact hcases h

theorem isPlain_of_isAlphanum {c : Char} (h : c.isAlphanum = true ∨ c = '%') :
    isPlain c = true := by
  rcases h with h | rfl
  · simp [isPlain, h]
  · decide

theorem isPlain_of_mem_toString {n : Nat} {c : Char} (h : c ∈ (toString n).toList) :
    isPlain c = true := by
  have hdigit : c.isDigit = true := isDigit_of_mem_toString h
  exact isPlain_of_isAlphanum (.inl (by rw [Char.isAlphanum, hdigit, Bool.or_true]))

theorem isBlank_of_isVisible {c : Char} (h : isVisible c = true) : isBlank c = false := by
  simp only [isVisible, Bool.and_eq_true, decide_eq_true_eq] at h
  apply Bool.eq_false_iff.mpr
  intro hb
  simp only [isBlank, inRanges, blankRanges, List.any_cons, List.any_nil, Bool.or_eq_true,
    Bool.and_eq_true, decide_eq_true_eq, Bool.false_eq_true, or_false] at hb
  omega

theorem not_endsAuthority {c : Char} (h : c ∉ separators) :
    Kind.endsAuthority .general c = false := by
  simp only [separators, List.mem_cons, List.not_mem_nil, or_false, not_or] at h
  simp [Kind.endsAuthority, h]

/-- What stands for bytes is plain. -/
theorem isPlain_of_spells {bytes : List UInt8} {path : List Char}
    (h : Percent.Spells bytes path) : ∀ c ∈ path, isPlain c = true :=
  fun c hc => isPlain_of_isAlphanum (h.chars c hc)

/-! ## The text as a whole -/

section
variable {s : List Char} (h : ∀ c ∈ s, isVisible c = true)
include h

theorem trim_of_visible : trim s = s := trim_noBlank fun c hc => isBlank_of_isVisible (h c hc)

/-- Nothing of a visible text is passed over. -/
theorem strip_of_visible : strip s = s := by
  have hlow : ∀ c ∈ s, decide (c.toNat ≤ 0x20) = false := by
    intro c hc
    have hv := h c hc
    simp only [isVisible, Bool.and_eq_true, decide_eq_true_eq] at hv
    exact decide_eq_false (by omega)
  have hends : dropEndWhile (·.toNat ≤ 0x20) s = s := by
    rw [dropEndWhile, dropWhile_of_all_not fun c hc => hlow c (List.mem_reverse.mp hc),
      List.reverse_reverse]
  rw [strip, dropWhile_of_all_not hlow, hends, List.filter_eq_self]
  intro c hc
  have hne : ∀ d : Char, d.toNat ≤ 0x20 → c ≠ d := by
    rintro d hd rfl
    exact absurd hd (of_decide_eq_false (hlow _ hc))
  simp [hne '\t' (by decide), hne '\n' (by decide), hne '\r' (by decide)]

end

/-! ## The authority -/

theorem cutLast_eq_none {p : Char → Bool} {s : List Char} (h : ∀ c ∈ s, p c = false) :
    cutLast p s = none := by
  induction s with
  | nil => rfl
  | cons c s ih =>
    obtain ⟨hc, hs⟩ := List.forall_mem_cons.mp h
    rw [cutLast, ih hs, hc]
    rfl

/-- Without an `@` there is no user. -/
theorem cutUser_eq {s : List Char} (hs : ∀ c ∈ s, Kind.endsAuthority .general c = false ∧ c ≠ '@')
    {rest : List Char} (hrest : ∀ c ∈ rest.head?, c = '/') :
    cutUser .general (s ++ rest) = (none, s ++ rest) := by
  have htake : (s ++ rest).takeWhile (fun c => !Kind.endsAuthority .general c) = s := by
    refine takeWhile_append_stop (fun c hc => ?_) fun c hc => ?_
    · rw [(hs c hc).1]
      rfl
    · rw [hrest c hc]
      rfl
  have hnone : cutLast (· == '@') s = none := cutLast_eq_none fun c hc => beq_false_of_ne (hs c hc).2
  rw [cutUser, htake, hnone]

theorem encode_eq_self {keep : Char → Bool} {s : List Char} (h : ∀ c ∈ s, keep c = true) :
    Percent.encode keep s = s := by
  induction s with
  | nil => rfl
  | cons c s ih =>
    obtain ⟨hc, hs⟩ := List.forall_mem_cons.mp h
    rw [Percent.encode, List.flatMap_cons, if_pos hc]
    exact congrArg _ (ih hs)

section
variable {host : List Char} (h : ∀ c ∈ host, isHostChar c = true)
include h

/-- A host ends at the first colon. -/
theorem cutHost_colon (rest : List Char) :
    cutHost .general false (host ++ ':' :: rest) = (host, ':' :: rest) := by
  induction host with
  | nil => rfl
  | cons c host ih =>
    obtain ⟨hc, hrest⟩ := List.forall_mem_cons.mp h
    have hsep := (isHostChar_cases hc).2.1
    have hcolon : (c == ':') = false := beq_false_of_ne fun he => hsep (by simp [he, separators])
    have hopen : (c == '[') = false := beq_false_of_ne fun he => hsep (by simp [he, separators])
    rw [List.cons_append, cutHost, not_endsAuthority hsep, hcolon, hopen]
    rw [Bool.false_and, Bool.false_or, Bool.false_and, Bool.false_or, if_neg Bool.false_ne_true,
      ih hrest]

/-- Such a host is a name and stays as it is. -/
theorem parseHost_name : parseHost .general host = .ok (.name (String.ofList host)) := by
  have hopaque : parseOpaque host = .ok (.name (String.ofList host)) := by
    have hany : host.any forbiddenInHost = false :=
      List.any_eq_false.mpr fun c hc => Bool.not_eq_true _ ▸ (isHostChar_cases (h c hc)).2.2.1
    rw [parseOpaque, hany, if_neg Bool.false_ne_true,
      encode_eq_self fun c hc => (isHostChar_cases (h c hc)).2.2.2]
  unfold parseHost
  split
  · next s =>
    exact absurd (h '[' List.mem_cons_self) (by decide)
  · exact hopaque

end

/-! ## Port and path -/

/-- A port is read back from its decimal number. -/
theorem parsePort_digits (port : UInt16) {rest : List Char} (hrest : ∀ c ∈ rest.head?, c = '/') :
    parsePort ((toString port.toNat).toList ++ rest) = .ok (some port, rest) := by
  have hdigits : ∀ c ∈ (toString port.toNat).toList, c.isDigit = true :=
    fun _ hc => isDigit_of_mem_toString hc
  have hslash : ∀ c ∈ rest.head?, c.isDigit = false := by
    intro c hc
    rw [hrest c hc]
    decide
  have hends : (rest.head?.any fun c => !portEnds c) = false := by
    cases hhead : rest.head? with
    | none => rfl
    | some c =>
      rw [hrest c hhead]
      rfl
  have hvalue : (Nat.toDigits 10 port.toNat).foldl (fun n c => 10 * n + (c.toNat - 48)) 0 =
      port.toNat :=
    (Nat.ofDigitChars_eq_foldl.symm).trans Nat.ofDigitChars_ten_toDigits
  have hlt : ¬ UInt16.size ≤ port.toNat := Nat.not_le.mpr port.toNat_lt
  have hne : (Nat.toDigits 10 port.toNat).isEmpty = false :=
    List.isEmpty_eq_false_iff.mpr Nat.toDigits_ne_nil
  rw [parsePort, takeWhile_append_stop hdigits hslash, dropWhile_append_stop hdigits hslash,
    toList_toString, hvalue]
  simp only [hlt, hne, hends, if_false, Bool.false_eq_true, UInt16.ofNat_toNat]

section
variable {s : List Char} (h : ∀ c ∈ s, isPlain c = true)
include h

theorem beforeQuery_plain : beforeQuery ('/' :: s) = '/' :: s := by
  have hpath : ∀ c ∈ '/' :: s, (c != '?' && c != '#') = true := by
    refine List.forall_mem_cons.mpr ⟨rfl, fun c hc => ?_⟩
    have hsep := (isPlain_cases (h c hc)).2.1
    simp only [separators, List.mem_cons, List.not_mem_nil, or_false, not_or] at hsep
    simp [hsep]
  exact List.takeWhile_eq_self_iff.mpr hpath

theorem cut_plain : cut (Kind.separates .general) s = [s] := by
  refine cut_of_forall_not fun c hc => ?_
  have hsep := (isPlain_cases (h c hc)).2.1
  simp only [separators, List.mem_cons, List.not_mem_nil, or_false, not_or] at hsep
  simp [Kind.separates, hsep]

/-- A path of one plain segment stays as it is, unless the segment stands for dots. -/
theorem pathText_segment (hone : isSingleDot s = false) (htwo : isDoubleDot s = false) :
    pathText .general ('/' :: s) = '/' :: s := by
  have hresolve : resolve [s] = [s] := by
    refine resolve_plain [s] fun t ht => ?_
    obtain rfl := List.mem_singleton.mp ht
    exact ⟨htwo, hone⟩
  have hslash : Kind.separates .general '/' = true := rfl
  unfold pathText
  simp only [hslash, if_true]
  rw [cut_plain h, hresolve, List.flatMap_singleton,
    encode_eq_self fun c hc => (isPlain_cases (h c hc)).2.2.2]

end

/-! ## The whole -/

/-- After two slashes come an authority and a path. -/
theorem parseAfterScheme_authority (secure : Bool) (s : List Char) :
    parseAfterScheme (schemeOf secure) ('/' :: '/' :: s) =
      (parseAuthority .general s).map fun a =>
        ⟨schemeOf secure, a.host, a.port, String.ofList (pathText .general (beforeQuery a.rest))⟩ := by
  have hkind : Kind.of (schemeOf secure) = .general := by cases secure <;> rfl
  unfold parseAfterScheme
  rw [hkind]
  rfl

/-- Behind a name and its colon comes the port. -/
theorem parseAuthority_colon {host rest : List Char} (hhost : ∀ c ∈ host, isHostChar c = true)
    (huser : cutUser .general (host ++ ':' :: rest) = (none, host ++ ':' :: rest)) :
    parseAuthority .general (host ++ ':' :: rest) =
      if host = [] then .error .emptyHost
      else (parsePort rest).map fun p => ⟨some (.name (String.ofList host)), p.1, p.2⟩ := by
  unfold parseAuthority
  rw [huser]
  dsimp only
  rw [cutHost_colon hhost, parseHost_name hhost]
  by_cases hempty : host = []
  · rw [if_pos hempty, hempty]
    rfl
  · have hname : (Host.name (String.ofList host) == .name "") = false := by
      apply beq_false_of_ne
      intro he
      have hlist := congrArg String.toList (Host.name.inj he)
      rw [String.toList_ofList] at hlist
      exact hempty hlist
    rw [if_neg hempty]
    simp only [reduceCtorEq, false_and, if_false, bind, Except.bind, hname, Bool.false_eq_true]
    cases parsePort rest <;> rfl

theorem parseAuthority_name {host : List Char} (hne : host ≠ [])
    (hhost : ∀ c ∈ host, isHostChar c = true) (port : UInt16) {rest : List Char}
    (hrest : ∀ c ∈ rest.head?, c = '/') :
    parseAuthority .general (host ++ ':' :: ((toString port.toNat).toList ++ rest)) =
      .ok ⟨some (.name (String.ofList host)), some port, rest⟩ := by
  have hbefore : ∀ c ∈ host ++ ':' :: (toString port.toNat).toList,
      Kind.endsAuthority .general c = false ∧ c ≠ '@' := by
    have hplain {c : Char} (hc : isHostChar c = true) :
        Kind.endsAuthority .general c = false ∧ c ≠ '@' :=
      ⟨not_endsAuthority (isHostChar_cases hc).2.1,
        fun he => (isHostChar_cases hc).2.1 (by simp [he, separators])⟩
    refine List.forall_mem_append.mpr ⟨fun c hc => hplain (hhost c hc),
      List.forall_mem_cons.mpr ⟨by decide, fun c hc => hplain ?_⟩⟩
    exact (isPlain_cases (isPlain_of_mem_toString hc)).2.2.1
  have huser := cutUser_eq hbefore hrest
  rw [List.append_assoc, List.cons_append] at huser
  rw [parseAuthority_colon hhost huser, if_neg hne, parsePort_digits port hrest]
  rfl

theorem cutScheme_append (secure : Bool) (rest : List Char) :
    cutScheme ((schemeOf secure).toList ++ ':' :: rest) = some ((schemeOf secure).toList, rest) := by
  cases secure <;> rfl

theorem toList_siteOf (secure : Bool) (host : String) (port : UInt16) :
    (siteOf secure host port).toList = (schemeOf secure).toList ++
      ':' :: '/' :: '/' :: (host.toList ++ ':' :: (toString port.toNat).toList) := by
  simp [siteOf]

theorem textOf_eq (secure : Bool) (host : String) (port : UInt16) (path : List Char) :
    textOf secure host port path = siteOf secure host port ++ String.ofList ('/' :: path) := by
  rw [show '/' :: path = "/".toList ++ path from rfl, String.ofList_append, ← String.append_assoc]
  rfl

section
variable {host : String} {rest : List Char} (hrest : ∀ c ∈ rest, isVisible c = true)
include hrest

theorem isVisible_siteOf_append (hhost : ∀ c ∈ host.toList, isVisible c = true) (secure : Bool)
    (port : UInt16) :
    ∀ c ∈ (siteOf secure host port ++ String.ofList rest).toList, isVisible c = true := by
  have hscheme : ∀ c ∈ (schemeOf secure).toList, isVisible c = true := by
    cases secure <;> exact List.all_eq_true.mp rfl
  have hport : ∀ c ∈ (toString port.toNat).toList, isVisible c = true :=
    fun c hc => (isPlain_cases (isPlain_of_mem_toString hc)).1
  rw [String.toList_append, toList_siteOf, String.toList_ofList]
  simp only [List.forall_mem_append, List.forall_mem_cons]
  exact ⟨⟨hscheme, by decide, by decide, by decide, hhost, by decide, hport⟩, hrest⟩

/-- The authority of a URL of visible characters is what follows the slashes. -/
theorem parse_siteOf_append (hhost : ∀ c ∈ host.toList, isVisible c = true) (secure : Bool)
    (port : UInt16) : Url.parse (siteOf secure host port ++ String.ofList rest) =
      (parseAuthority .general (host.toList ++ ':' :: ((toString port.toNat).toList ++ rest))).map
        fun a => ⟨schemeOf secure, a.host, a.port,
          String.ofList (pathText .general (beforeQuery a.rest))⟩ := by
  unfold Url.parse
  rw [strip_of_visible (isVisible_siteOf_append hrest hhost secure port), String.toList_append,
    toList_siteOf, String.toList_ofList, List.append_assoc, List.cons_append, cutScheme_append]
  dsimp only
  rw [String.ofList_toList, List.cons_append, List.cons_append, parseAfterScheme_authority,
    List.append_assoc, List.cons_append]

/-- **A URL is read part by part.** -/
theorem parse_siteOf (hne : host ≠ "") (hhost : ∀ c ∈ host.toList, isHostChar c = true)
    (secure : Bool) (port : UInt16) (hhead : ∀ c ∈ rest.head?, c = '/') :
    Url.parse (siteOf secure host port ++ String.ofList rest) =
      .ok ⟨schemeOf secure, some (.name host), some port,
        String.ofList (pathText .general (beforeQuery rest))⟩ := by
  have hlist : host.toList ≠ [] := fun h => hne (String.toList_eq_nil_iff.mp h)
  rw [parse_siteOf_append hrest (fun c hc => (isHostChar_cases (hhost c hc)).1),
    parseAuthority_name hlist hhost port hhead, String.ofList_toList]
  rfl

end

section
variable {host : String} (hne : host ≠ "") (hhost : ∀ c ∈ host.toList, isPlain c = true)
  {path : List Char} (hpath : ∀ c ∈ path, isPlain c = true)

include hhost hpath in
theorem isVisible_textOf (secure : Bool) (port : UInt16) :
    ∀ c ∈ (textOf secure host port path).toList, isVisible c = true := by
  have hplain {s : List Char} (hs : ∀ c ∈ s, isPlain c = true) : ∀ c ∈ s, isVisible c = true :=
    fun c hc => (isPlain_cases (hs c hc)).1
  have hslash : ∀ c ∈ '/' :: path, isVisible c = true :=
    List.forall_mem_cons.mpr ⟨by decide, hplain hpath⟩
  rw [textOf_eq]
  exact isVisible_siteOf_append hslash (hplain hhost) secure port

include hne hhost hpath in
/-- A URL of plain parts is read part by part. -/
theorem parse_textOf (secure : Bool) (port : UInt16) (hone : isSingleDot path = false)
    (htwo : isDoubleDot path = false) : Url.parse (textOf secure host port path) =
      .ok ⟨schemeOf secure, some (.name host), some port, String.ofList ('/' :: path)⟩ := by
  have hslash : ∀ c ∈ '/' :: path, isVisible c = true :=
    List.forall_mem_cons.mpr ⟨by decide, fun c hc => (isPlain_cases (hpath c hc)).1⟩
  have hchars : ∀ c ∈ host.toList, isHostChar c = true :=
    fun c hc => (isPlain_cases (hhost c hc)).2.2.1
  have hhead : ∀ c ∈ ('/' :: path).head?, c = '/' := fun c hc => (Option.some.inj hc).symm
  rw [textOf_eq, parse_siteOf hslash hne hchars secure port hhead, beforeQuery_plain hpath,
    pathText_segment hpath hone htwo]

end

end DirectoryClient.Url
