import DirectoryClient.LdapUrl
import DirectoryClient.Proofs.Dn.Reading
import DirectoryClient.Proofs.Url.Reading

/-!
# Names in LDAP URLs

Every distinguished name can be sent in a URL, whatever its characters.

* `isHostNameChar`      the characters of ordinary host names;
* `not_dots_of_parse`   a path that writes a name is no dot segment;
* `parse_of_spells`     a URL gives back the host, the port and the name that were written into it.
-/

namespace DirectoryClient

open DirectoryClient.Text

def isHostNameChar (c : Char) : Bool := c.isAlphanum || c == '-' || c == '.'

theorem isPlain_of_isHostNameChar {c : Char} (h : isHostNameChar c = true) :
    Url.isPlain c = true := by
  rw [Url.isPlain, Bool.or_assoc, Bool.or_assoc, ← Bool.or_assoc, ← Bool.or_assoc]
  exact Bool.or_eq_true_iff.mpr (.inl h)

namespace LdapUrl

section
variable {name : String} {d : Dn} (hd : Dn.parse name = .ok d) {path : List Char}
  (hs : Percent.Spells (Utf8.bytesOf name) path)
include hd hs

/-- Dots alone are no name. -/
theorem undot_ne_of_parse {n : Nat} (hn : n = 1 ∨ n = 2) :
    Url.undot path ≠ List.replicate n '.' := by
  intro hdots
  have hbytes := hs.eq_replicate hdots
  have hname : name.toList = List.replicate n '.' := by
    have hread := Utf8.decode_encode name.toList
    rw [show Utf8.encode name.toList = _ from hbytes] at hread
    have hback := Utf8.decode_encode (List.replicate n '.')
    have hencode : Utf8.encode (List.replicate n '.') = List.replicate n 0x2E := by
      rcases hn with rfl | rfl <;> rfl
    rw [hencode] at hback
    exact Except.ok.inj (hread.symm.trans hback)
  have hnone : (Dn.parse name).toOption = none := by
    rw [← String.ofList_toList (s := name), hname]
    rcases hn with rfl | rfl <;> decide
  rw [hd] at hnone
  cases hnone

theorem isSingleDot_of_parse : Url.isSingleDot path = false :=
  beq_false_of_ne (undot_ne_of_parse hd hs (.inl rfl))

theorem isDoubleDot_of_parse : Url.isDoubleDot path = false :=
  beq_false_of_ne (undot_ne_of_parse hd hs (.inr rfl))

end

/-- The bytes of a path are those that were written into it. -/
theorem baseBytes_of_spells {bytes : List UInt8} {path : List Char}
    (h : Percent.Spells bytes path) : baseBytes (String.ofList ('/' :: path)) = bytes := by
  have hhead : path.dropWhile (· == '/') = path := by
    cases path with
    | nil => rfl
    | cons c rest =>
      have hplain := Url.isPlain_of_spells h c List.mem_cons_self
      have hne : (c == '/') = false := beq_false_of_ne fun he =>
        (Url.isPlain_cases hplain).2.1 (by simp [he, Url.separators])
      rw [List.dropWhile_cons, hne, if_neg Bool.false_ne_true]
  rw [baseBytes, String.toList_ofList, List.dropWhile_cons_of_pos (by decide), hhead]
  exact h.decode_eq

theorem ofUrl_of_spells {name : String} {path : List Char}
    (hs : Percent.Spells (Utf8.bytesOf name) path) (text host : String) (secure : Bool)
    (port : UInt16) : ofUrl text
        ⟨Url.schemeOf secure, some (.name host), some port, String.ofList ('/' :: path)⟩ =
      .ok ⟨text, secure, host, port, name⟩ := by
  have hscheme : secureScheme? (Url.schemeOf secure) = some secure := by cases secure <;> decide
  have hbase : Utf8.decode (baseBytes (String.ofList ('/' :: path))) = .ok name.toList := by
    rw [baseBytes_of_spells hs]
    exact Utf8.decode_encode name.toList
  unfold ofUrl
  rw [hscheme]
  dsimp only
  rw [hbase]
  dsimp only
  rw [String.ofList_toList]
  rfl

theorem dn_of_parse {u : LdapUrl} {d : Dn} (hd : Dn.parse u.base = .ok d)
    (hb : blank u.base = false) : u.dn = .ok (some d) := by
  have hempty : u.base.isEmpty = false := by
    apply Bool.eq_false_iff.mpr
    intro he
    rw [String.isEmpty_iff.mp he] at hb
    exact absurd hb (by decide)
  rw [dn, hempty, if_neg Bool.false_ne_true, hd]
  rfl

/-- **A URL gives back the host, the port and the name that were written into it.** -/
theorem parse_of_spells {name : String} {d : Dn} (hd : Dn.parse name = .ok d)
    (hb : blank name = false) {host : String} (hne : host ≠ "")
    (hhost : ∀ c ∈ host.toList, isHostNameChar c = true) (secure : Bool) (port : UInt16)
    {path : List Char} (hs : Percent.Spells (Utf8.bytesOf name) path) :
    ∃ u, LdapUrl.parse (Url.textOf secure host port path) = .ok u ∧ u.base = name ∧
      u.host = host ∧ u.port = port ∧ u.secure = secure ∧ u.dn = .ok (some d) := by
  have hplain : ∀ c ∈ host.toList, Url.isPlain c = true :=
    fun c hc => isPlain_of_isHostNameChar (hhost c hc)
  have hpath := Url.isPlain_of_spells hs
  have htrim : trimmed (Url.textOf secure host port path) = Url.textOf secure host port path := by
    rw [trimmed, Url.trim_of_visible (Url.isVisible_textOf hplain hpath secure port),
      String.ofList_toList]
  have hurl := Url.parse_textOf hne hplain hpath secure port (isSingleDot_of_parse hd hs)
    (isDoubleDot_of_parse hd hs)
  have hof := ofUrl_of_spells hs (Url.textOf secure host port path) host secure port
  refine ⟨⟨Url.textOf secure host port path, secure, host, port, name⟩, ?_, rfl, rfl, rfl, rfl, ?_⟩
  · unfold LdapUrl.parse
    rw [htrim, hurl]
    simp only [Except.mapError, Except.bind, hof]
  · exact dn_of_parse hd hb

/-- dots, slashes, a percent sign, the beginnings of a query and of a fragment, a tab, a letter of two
bytes and a symbol of four -/
def hostile : String := "cn=../.%2e/?#\t,ou=é\\,😀 , dc=x"

def hostilePath : String :=
  "cn%3D%2E%2E%2F%2E%252e%2F%3F%23%09%2Cou%3D%C3%A9%5C%2C%F0%9F%98%80%20%2C%20dc%3Dx"

theorem parse_of_spells_hostile : blank hostile = false ∧
    Percent.Spells (Utf8.bytesOf hostile) hostilePath.toList ∧
    ∃ d u, Dn.parse hostile = .ok d ∧
      LdapUrl.parse (Url.textOf false "LDAP-1.example.com." 0 hostilePath.toList) = .ok u ∧
      u.base = hostile ∧ u.host = "LDAP-1.example.com." ∧ u.port = 0 ∧ u.dn = .ok (some d) := by
  have hb : blank hostile = false := by decide
  have hs : Percent.Spells (Utf8.bytesOf hostile) hostilePath.toList := by
    have hencode : Percent.encode Char.isAlphanum hostile.toList = hostilePath.toList := by
      decide +kernel
    exact hencode ▸ Percent.Spells.of_encode hostile.toList
  obtain ⟨d, hd⟩ : ∃ d, Dn.parse hostile = .ok d := by
    have hok : (Dn.parse hostile).toOption.isSome = true := by decide +kernel
    cases hp : Dn.parse hostile with
    | ok d => exact ⟨d, rfl⟩
    | error e =>
      rw [hp] at hok
      cases hok
  have hne : "LDAP-1.example.com." ≠ "" := by decide
  have hchars : ∀ c ∈ "LDAP-1.example.com.".toList, isHostNameChar c = true :=
    List.all_eq_true.mp (by decide)
  obtain ⟨u, hu, hbase, hhost, hport, -, hdn⟩ := parse_of_spells hd hb hne hchars false 0 hs
  exact ⟨hb, hs, d, u, hd, hu, hbase, hhost, hport, hdn⟩

end LdapUrl

end DirectoryClient
