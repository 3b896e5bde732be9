import DirectoryClient.Proofs.Address
import DirectoryClient.Proofs.Url.Hosts
import DirectoryClient.Server

/-!
# Dialling the server of a referral

The transport puts the URL that it dials together from scheme, host and port.

* `LdapUrl.parse_siteOf`    a name as host is read back from such a URL, with scheme and port;
* `Url.parseAuthority_unbracketed`   an address of eight pieces is not: its first colon ends the host,
                            and the next piece is no port;
* `url_settings_ofReferral` what is dialled for a referral;
* `dialled_iff`             it names the server of the referral unless that is such an address.
-/

namespace DirectoryClient

open DirectoryClient.Text

/-! ## Names -/

namespace LdapUrl

theorem parse_eq_error {text : String} {flaw : UrlFlaw} (h : Url.parse (trimmed text) = .error flaw) :
    parse text = .error ⟨text, .url flaw⟩ := by
  unfold parse
  rw [h]
  rfl

theorem trimmed_siteOf {host : String} (hhost : ∀ c ∈ host.toList, Url.isVisible c = true)
    (secure : Bool) (port : UInt16) :
    trimmed (Url.siteOf secure host port) = Url.siteOf secure host port := by
  have hvisible := Url.isVisible_siteOf_append (List.forall_mem_nil _) hhost secure port
  rw [String.ofList_nil, String.append_empty] at hvisible
  rw [trimmed, Url.trim_of_visible hvisible, String.ofList_toList]

/-- **Scheme, host and port are read back from a URL that holds nothing else.** -/
theorem parse_siteOf {host : String} (h : Url.IsOpaqueHost host) (secure : Bool) (port : UInt16) :
    parse (Url.siteOf secure host port) = .ok ⟨Url.siteOf secure host port, secure, host, port, ""⟩ := by
  have hvisible : ∀ c ∈ host.toList, Url.isVisible c = true :=
    fun c hc => (Url.isHostChar_cases (h.chars c hc)).1
  have hurl := Url.parse_siteOf (List.forall_mem_nil _) h.ne_empty h.chars secure port
    (fun c hc => by cases hc)
  rw [String.ofList_nil, String.append_empty] at hurl
  apply parse_eq_ok_iff.mpr
  rw [trimmed_siteOf hvisible]
  refine ⟨_, hurl, ?_⟩
  cases secure <;> rfl

end LdapUrl

/-! ## Addresses of eight pieces -/

namespace Url

/-- What the characters of addresses are to a reader of URLs. -/
theorem isAddressChar_cases {c : Char} (h : isAddressChar c = true) :
    isVisible c = true ∧ Kind.endsAuthority .general c = false ∧ c ≠ '@' ∧ portEnds c = false ∧
      (c ≠ ':' → isHostChar c = true) := by
  have hcases : isAddressChar c = true → isVisible c = true ∧ Kind.endsAuthority .general c = false ∧
      c ≠ '@' ∧ portEnds c = false ∧ (c ≠ ':' → isHostChar c = true) :=
    forall_ascii (toNat_lt_of_isAddressChar h) (by decide)
  exact hcases h

/-- What has a colon in it is no port. -/
theorem parsePort_of_colon {s : List Char} (h : ∀ c ∈ s, isAddressChar c = true) (hcolon : ':' ∈ s) :
    parsePort s = .error .invalidPort := by
  have hrest : s.dropWhile Char.isDigit ≠ [] := by
    intro hnil
    have hdigit := List.dropWhile_eq_nil_iff.mp hnil ':' hcolon
    exact absurd hdigit (by decide)
  obtain ⟨c, rest, hc⟩ := List.exists_cons_of_ne_nil hrest
  have hmem : c ∈ s := (List.dropWhile_sublist _).mem (hc ▸ List.mem_cons_self)
  have hends : portEnds c = false := (isAddressChar_cases (h c hmem)).2.2.2.1
  unfold parsePort
  rw [hc]
  simp [hends]

/-- The first colon of an address ends the host, and what follows it is no port. -/
theorem parseAuthority_unbracketed {s : List Char} (h : ∀ c ∈ s, isAddressChar c = true)
    (hcolon : ':' ∈ s) (port : UInt16) :
    ∃ flaw, parseAuthority .general (s ++ ':' :: (toString port.toNat).toList) = .error flaw := by
  -- the first colon, with none before it
  obtain ⟨host, after, rfl, hhost⟩ := List.eq_append_cons_of_mem hcolon
  have hport : ∀ c ∈ (toString port.toNat).toList, isAddressChar c = true := by
    intro c hc
    exact isAddressChar_of_isHex (isHex_of_isDigit (isDigit_of_mem_toString hc))
  have hall : ∀ c ∈ (host ++ ':' :: after) ++ ':' :: (toString port.toNat).toList,
      isAddressChar c = true :=
    List.forall_mem_append.mpr ⟨h, List.forall_mem_cons.mpr ⟨by decide, hport⟩⟩
  have hends : ∀ c ∈ (host ++ ':' :: after) ++ ':' :: (toString port.toNat).toList,
      Kind.endsAuthority .general c = false ∧ c ≠ '@' :=
    fun c hc => (isAddressChar_cases (hall c hc)).2.imp_right And.left
  have hnone : ∀ c ∈ ([] : List Char).head?, c = '/' := fun c hc => by cases hc
  have huser := cutUser_eq hends hnone
  rw [List.append_nil, List.append_assoc, List.cons_append] at huser
  obtain ⟨hbefore, hafter⟩ := List.forall_mem_append.mp h
  have hname : ∀ c ∈ host, isHostChar c = true := by
    intro c hc
    apply (isAddressChar_cases (hbefore c hc)).2.2.2.2
    rintro rfl
    exact hhost hc
  have hno : parsePort (after ++ ':' :: (toString port.toNat).toList) = .error .invalidPort := by
    apply parsePort_of_colon
    · exact List.forall_mem_append.mpr
        ⟨(List.forall_mem_cons.mp hafter).2, List.forall_mem_cons.mpr ⟨by decide, hport⟩⟩
    · exact List.mem_append_right _ List.mem_cons_self
  rw [List.append_assoc, List.cons_append, parseAuthority_colon hname huser, hno]
  by_cases hempty : host = []
  · exact ⟨.emptyHost, if_pos hempty⟩
  · exact ⟨.invalidPort, if_neg hempty⟩

end Url

/-- A URL with an address without brackets is refused. -/
theorem LdapUrl.parse_siteOf_six (x : IPv6) (secure : Bool) (port : UInt16) :
    ∃ flaw, parse (Url.siteOf secure x.text port) = .error ⟨Url.siteOf secure x.text port, .url flaw⟩ := by
  have hvisible : ∀ c ∈ x.text.toList, Url.isVisible c = true :=
    fun c hc => (Url.isAddressChar_cases (x.isAddressChar_of_mem_text c hc)).1
  obtain ⟨flaw, hflaw⟩ :=
    Url.parseAuthority_unbracketed x.isAddressChar_of_mem_text x.colon_mem_text port
  have hurl := Url.parse_siteOf_append (List.forall_mem_nil _) hvisible secure port
  rw [String.ofList_nil, String.append_empty, List.append_nil, hflaw] at hurl
  refine ⟨flaw, parse_eq_error ?_⟩
  rw [trimmed_siteOf hvisible, hurl]
  rfl

/-! ## What is dialled -/

/-- What is dialled for a referral is made of the scheme, the host and the port of its URL. -/
theorem url_settings_ofReferral (schema : Schema) (template : ServerRecord)
    (binary : BinaryAttributes) (u : LdapUrl) :
    ((ServerRecord.ofReferral schema template u).settings binary).url =
      Url.siteOf u.secure u.host u.port := by
  have hscheme : (ServerRecord.ofReferral schema template u).security.scheme =
      Url.schemeOf u.secure := by
    unfold ServerRecord.ofReferral
    dsimp only
    cases u.secure with
    | true => rfl
    | false => cases template.security <;> rfl
  show (ServerRecord.ofReferral schema template u).security.scheme ++ _ ++ _ ++ _ ++ _ = _
  rw [hscheme]
  rfl

/-- whether two URLs name the same server, whatever else they say -/
def LdapUrl.SameServer (u v : LdapUrl) : Prop :=
  u.host = v.host ∧ u.port = v.port ∧ u.secure = v.secure

/-- **The URL that is dialled for a referral names the server of the referral unless its host is an
address of eight pieces.**  Then it is no URL at all: the brackets are missing. -/
theorem dialled_iff (schema : Schema) (template : ServerRecord) (binary : BinaryAttributes)
    {text : String} {u : LdapUrl} (hu : LdapUrl.parse text = .ok u) :
    ((∃ v, LdapUrl.parse ((ServerRecord.ofReferral schema template u).settings binary).url = .ok v ∧
        v.SameServer u) ↔ ∀ x : IPv6, u.host ≠ x.text) ∧
      ∀ x : IPv6, u.host = x.text → ∃ error,
        LdapUrl.parse ((ServerRecord.ofReferral schema template u).settings binary).url =
          .error error := by
  rw [url_settings_ofReferral]
  have hsix (x : IPv6) (hx : u.host = x.text) :
      ∃ error, LdapUrl.parse (Url.siteOf u.secure u.host u.port) = .error error := by
    obtain ⟨flaw, hflaw⟩ := LdapUrl.parse_siteOf_six x u.secure u.port
    exact ⟨_, by rw [hx]; exact hflaw⟩
  refine ⟨⟨?_, ?_⟩, hsix⟩
  · rintro ⟨v, hv, -⟩ x hx
    obtain ⟨error, herror⟩ := hsix x hx
    rw [herror] at hv
    cases hv
  · intro hnot
    rcases LdapUrl.host_of_parse hu with ⟨x, hx⟩ | hname
    · exact absurd hx (hnot x)
    · exact ⟨_, LdapUrl.parse_siteOf hname u.secure u.port, rfl, rfl, rfl⟩

/-- a server that uses StartTLS -/
def startTlsTemplate : ServerRecord where
  host := "ldap.example.com"
  port := 1389
  security := .startTls
  connectTimeout := 30
  operationTimeout := none
  tls := {}
  baseContext := none
  bindDn := "cn=reader"
  bindSecret := none
  origin := .configured

/-- what is dialled for a URL with that template -/
def dialledFor (u : LdapUrl) : String :=
  ((ServerRecord.ofReferral .standard startTlsTemplate u).settings (.of [])).url

/-- a user, a letter of two bytes, an escaped letter, and the port zero -/
def oddUrl : LdapUrl where
  text := "ldaps://me@Réf-1.ex%41mple!~:0/dc=x"
  secure := true
  host := "R%C3%A9f-1.ex%41mple!~"
  port := 0
  base := "dc=x"

def bracketedUrl : LdapUrl where
  text := "ldap://[2001:db8::1]/"
  secure := false
  host := "2001:db8::1"
  port := 389
  base := ""

theorem dialled_iff_odd : LdapUrl.parse " ldaps://me@Réf-1.ex%41mple!~:0/dc=x" = .ok oddUrl ∧
    LdapUrl.parse "ldap://[2001:db8::1]/" = .ok bracketedUrl ∧
    (∃ v, LdapUrl.parse (dialledFor oddUrl) = .ok v ∧ v.SameServer oddUrl) ∧
    ∃ error, LdapUrl.parse (dialledFor bracketedUrl) = .error error := by
  have hodd : LdapUrl.parse " ldaps://me@Réf-1.ex%41mple!~:0/dc=x" = .ok oddUrl := by decide +kernel
  have hsix : LdapUrl.parse "ldap://[2001:db8::1]/" = .ok bracketedUrl := by decide +kernel
  have hno : ∀ x : IPv6, oddUrl.host ≠ x.text := by
    intro x hx
    have hcolon := x.colon_mem_text
    rw [← hx] at hcolon
    exact absurd hcolon (by decide)
  obtain ⟨hiff, -⟩ := dialled_iff .standard startTlsTemplate (.of []) hodd
  obtain ⟨-, hrefused⟩ := dialled_iff .standard startTlsTemplate (.of []) hsix
  have hx : bracketedUrl.host = IPv6.text ⟨[0x2001, 0xdb8, 0, 0, 0, 0, 0, 1], rfl⟩ := by
    decide +kernel
  exact ⟨hodd, hsix, hiff.mpr hno, hrefused _ hx⟩

/-- An address in brackets is a host, and the URL that is dialled for it is refused. -/
theorem brackets_lost : ¬ ∀ (schema : Schema) (template : ServerRecord) (binary : BinaryAttributes)
    (text : String) (u : LdapUrl), LdapUrl.parse text = .ok u →
    ∃ v, LdapUrl.parse ((ServerRecord.ofReferral schema template u).settings binary).url = .ok v ∧
      v.SameServer u := by
  intro hall
  have hu : LdapUrl.parse "ldap://[2001:db8::1]/" = .ok bracketedUrl := by decide +kernel
  obtain ⟨v, hv, -⟩ := hall .standard startTlsTemplate (.of []) _ _ hu
  have hurl : ((ServerRecord.ofReferral .standard startTlsTemplate bracketedUrl).settings (.of [])).url =
      "ldap://2001:db8::1:389" := by decide
  have hrefused : LdapUrl.parse "ldap://2001:db8::1:389" =
      .error ⟨"ldap://2001:db8::1:389", .url .invalidPort⟩ := by decide +kernel
  rw [hurl, hrefused] at hv
  cases hv

end DirectoryClient
