import DirectoryClient.LdapUrl
import DirectoryClient.Proofs.Url.Reading

/-!
# Hosts of LDAP URLs

The host of an LDAP URL is an address in brackets or a name, and a name is kept in characters that
stand for themselves.

* `Url.IsOpaqueHost`          such names; none is empty;
* `Url.hostChars_encode`    what is kept of a host in any characters that a host may hold;
* `LdapUrl.host_of_parse`   the two kinds of hosts.
-/

namespace DirectoryClient

open DirectoryClient.Text

namespace Url

/-- a name that a host is kept as -/
structure IsOpaqueHost (host : String) : Prop where
  ne_empty : host ≠ ""
  chars : ∀ c ∈ host.toList, isHostChar c = true

theorem isHostChar_encodeByte (b : UInt8) : ∀ c ∈ Percent.encodeByte b, isHostChar c = true := by
  have hdigit : ∀ n : Fin 16, isHostChar (hexUpper n) = true := by decide
  have hb : b.toNat < 256 := b.toNat_lt
  simp only [Percent.encodeByte, List.forall_mem_cons]
  refine ⟨by decide, ?_, ?_, List.forall_mem_nil _⟩
  · exact hdigit ⟨b.toNat / 16, by omega⟩
  · exact hdigit ⟨b.toNat % 16, by omega⟩

theorem toNat_lt_of_keptInHost {c : Char} (h : keptInHost c = true) : c.toNat < 0x80 := by
  simp only [keptInHost, Bool.and_eq_true, decide_eq_true_eq] at h
  omega

theorem isHostChar_of_kept {c : Char} (hc : forbiddenInHost c = false) (hkeep : keptInHost c = true) :
    isHostChar c = true := by
  have hcases : forbiddenInHost c = false → keptInHost c = true → isHostChar c = true :=
    forall_ascii (toNat_lt_of_keptInHost hkeep) (by decide)
  exact hcases hc hkeep

/-- What is not kept is written in bytes. -/
theorem hostChars_encode {s : List Char} (h : s.any forbiddenInHost = false) :
    ∀ c ∈ Percent.encode keptInHost s, isHostChar c = true := by
  intro c hc
  obtain ⟨d, hd, hin⟩ := List.mem_flatMap.mp hc
  have hallowed : forbiddenInHost d = false := Bool.eq_false_iff.mpr (List.any_eq_false.mp h d hd)
  by_cases hkeep : keptInHost d = true
  · rw [if_pos hkeep] at hin
    rw [List.mem_singleton.mp hin]
    exact isHostChar_of_kept hallowed hkeep
  · rw [if_neg hkeep] at hin
    obtain ⟨b, -, hb⟩ := List.mem_flatMap.mp hin
    exact isHostChar_encodeByte b c hb

/-! ## What is read as a host -/

theorem parseHost_cases {s : List Char} {host : Host} (h : parseHost .general s = .ok host) :
    (∃ x, host = .six x) ∨ ∃ name, host = .name name ∧ ∀ c ∈ name.toList, isHostChar c = true := by
  have hkept (h : parseOpaque s = .ok host) :
      ∃ name, host = .name name ∧ ∀ c ∈ name.toList, isHostChar c = true := by
    unfold parseOpaque at h
    split at h
    · cases h
    · next hany =>
      refine ⟨_, (Except.ok.inj h).symm, ?_⟩
      rw [String.toList_ofList]
      exact hostChars_encode (Bool.eq_false_iff.mpr hany)
  unfold parseHost at h
  split at h
  · unfold parseBracketed at h
    split at h
    · split at h
      · exact .inl ⟨_, (Except.ok.inj h).symm⟩
      · cases h
    · cases h
  · exact .inr (hkept h)

/-- The host of an authority is what was read as one, unless that is an empty name. -/
theorem host_of_parseAuthority {s : List Char} {a : Authority}
    (h : parseAuthority .general s = .ok a) : ∃ written host, parseHost .general written = .ok host ∧
      a.host = if host == .name "" then none else some host := by
  unfold parseAuthority at h
  simp only [bind, Except.bind, pure, Except.pure] at h
  split at h
  · cases h
  split at h
  · cases h
  split at h
  · cases h
  next host hread =>
  refine ⟨_, host, hread, ?_⟩
  split at h
  · cases h
  split at h
  -- with a port
  · split at h
    · cases h
    split at h
    · cases h
    · exact Except.ok.inj h ▸ rfl
  -- without one
  · split at h
    · cases h
    · exact Except.ok.inj h ▸ rfl

theorem host_cases_of_parseAuthority {s : List Char} {a : Authority} {host : Host}
    (h : parseAuthority .general s = .ok a) (hhost : a.host = some host) :
    (∃ x, host = .six x) ∨ ∃ name, host = .name name ∧ IsOpaqueHost name := by
  obtain ⟨written, read, hread, hkept⟩ := host_of_parseAuthority h
  rw [hhost] at hkept
  split at hkept
  · cases hkept
  · next hne =>
    obtain rfl := Option.some.inj hkept
    rcases parseHost_cases hread with hsix | ⟨name, rfl, hchars⟩
    · exact .inl hsix
    · refine .inr ⟨name, rfl, ⟨?_, hchars⟩⟩
      rintro rfl
      exact hne (beq_self_eq_true _)

theorem scheme_of_parseAfterScheme {scheme : String} {s : List Char} {u : Url}
    (h : parseAfterScheme scheme s = .ok u) : u.scheme = scheme := by
  unfold parseAfterScheme at h
  simp only [bind, Except.bind, pure, Except.pure] at h
  split at h
  -- a web-like scheme
  · split at h
    · cases h
    · exact Except.ok.inj h ▸ rfl
  -- a file, with two slashes or without them
  · split at h
    · split at h
      · cases h
      · exact Except.ok.inj h ▸ rfl
    · exact Except.ok.inj h ▸ rfl
  -- any other scheme, with an authority or without one
  · split at h
    · cases h
    · exact Except.ok.inj h ▸ rfl
  · exact Except.ok.inj h ▸ rfl
  · exact Except.ok.inj h ▸ rfl
  · exact Except.ok.inj h ▸ rfl

/-- Outside the schemes with rules of their own, a host stands behind two slashes. -/
theorem authority_of_parseAfterScheme {scheme : String} (hscheme : Kind.of scheme = .general)
    {s : List Char} {u : Url} (h : parseAfterScheme scheme s = .ok u) :
    u.host = none ∨ ∃ r a, parseAuthority .general r = .ok a ∧ u.host = a.host := by
  unfold parseAfterScheme at h
  rw [hscheme] at h
  simp only [bind, Except.bind, pure, Except.pure] at h
  split at h
  · next he => cases he
  · next he => cases he
  · split at h
    · cases h
    · next a ha => exact .inr ⟨_, a, ha, Except.ok.inj h ▸ rfl⟩
  · exact .inl (Except.ok.inj h ▸ rfl)
  · exact .inl (Except.ok.inj h ▸ rfl)
  · next he _ => cases he

theorem host_cases_of_parse {text : String} {u : Url} {host : Host} (h : Url.parse text = .ok u)
    (hscheme : Kind.of u.scheme = .general) (hhost : u.host = some host) :
    (∃ x, host = .six x) ∨ ∃ name, host = .name name ∧ IsOpaqueHost name := by
  unfold Url.parse at h
  split at h
  · next scheme rest _ =>
    rw [scheme_of_parseAfterScheme h] at hscheme
    rcases authority_of_parseAfterScheme hscheme h with hnone | ⟨r, a, ha, he⟩
    · rw [hhost] at hnone
      cases hnone
    · exact host_cases_of_parseAuthority ha (he.symm.trans hhost)
  · cases h

end Url

/-! ## LDAP URLs -/

namespace LdapUrl

theorem kind_of_secureScheme? {scheme : String} {secure : Bool}
    (h : secureScheme? scheme = some secure) : Url.Kind.of scheme = .general := by
  unfold secureScheme? at h
  split at h
  · next hs => rw [hs]; rfl
  · split at h
    · next hs => rw [hs]; rfl
    · cases h

theorem exists_of_ofUrl {text : String} {w : Url} {u : LdapUrl} (h : ofUrl text w = .ok u) :
    secureScheme? w.scheme = some u.secure ∧ ∃ host, w.host = some host ∧ u.host = host.text := by
  unfold ofUrl at h
  split at h
  · cases h
  · cases h
  · next secure host hs hh =>
    split at h
    · cases h
    · obtain rfl := Except.ok.inj h
      exact ⟨hs, host, hh, rfl⟩

/-- A text is read as a URL and then as one of LDAP. -/
theorem parse_eq_ok_iff {text : String} {u : LdapUrl} : parse text = .ok u ↔
    ∃ w, Url.parse (trimmed text) = .ok w ∧ ofUrl (trimmed text) w = .ok u := by
  unfold parse
  cases hw : Url.parse (trimmed text) with
  | error flaw =>
    constructor
    · intro h
      cases h
    · rintro ⟨w, hok, -⟩
      cases hok
  | ok w =>
    simp only [Except.mapError, Except.bind]
    constructor
    · intro h
      refine ⟨w, rfl, ?_⟩
      split at h
      · next hu => rw [hu, Except.ok.inj h]
      · cases h
    · rintro ⟨w', hok, hof⟩
      obtain rfl := Except.ok.inj hok
      rw [hof]

/-- **A host is an address of eight pieces without its brackets, or a name in characters that stand
for themselves.** -/
theorem host_of_parse {text : String} {u : LdapUrl} (h : parse text = .ok u) :
    (∃ x : IPv6, u.host = x.text) ∨ Url.IsOpaqueHost u.host := by
  obtain ⟨w, hw, hof⟩ := parse_eq_ok_iff.mp h
  obtain ⟨hscheme, host, hhost, he⟩ := exists_of_ofUrl hof
  rcases Url.host_cases_of_parse hw (kind_of_secureScheme? hscheme) hhost with
    ⟨x, rfl⟩ | ⟨name, rfl, hname⟩
  · exact .inl ⟨x, he⟩
  · exact .inr (by rw [he]; exact hname)

end LdapUrl

end DirectoryClient
