import DirectoryClient.Proofs.Dn.Positions
import DirectoryClient.Proofs.Dn.Stripping

/-!
# A written value in front of a name

Whoever puts a name together out of a type, a value from elsewhere and the name of a parent gets one
relative name in front of those of the parent, whatever the value is.

* `parseRdns_cons`, `Dn.parse_cons`   a relative name in front of others;
* `parseAva_escapeValue`    a type with a written value is one assertion of that type;
* `parse_escapeValue_cons`  the whole name.
-/

namespace DirectoryClient

open DirectoryClient.Text

/-! ## Relative names in front of others -/

theorem parseRdns_cons {p s : List Char} (hp : Sealed separatesRdns p)
    (hblank : p.all isBlank = false) {r : Rdn} (hr : parseRdn p = .ok r) (hne : s ≠ [])
    {rdns : List Rdn} (h : parseRdns s = .ok rdns) :
    parseRdns (p ++ ',' :: s) = .ok (r :: rdns) := by
  unfold parseRdns at h ⊢
  rw [if_neg (by simpa using hne)] at h
  rw [if_neg (by simp)]
  cases hparts : parts separatesRdns s with
  | error e =>
    rw [hparts] at h
    cases h
  | ok ps =>
    rw [hparts] at h
    have hrest : ps.mapM parseRdn = .ok rdns := h
    rw [parts_cons (by decide) rfl hp hblank hparts]
    show (p :: ps).mapM parseRdn = _
    rw [List.mapM_cons, hr, hrest]
    rfl

/-- A text that no plus sign cuts is one assertion. -/
theorem parseRdn_of_sealed {s : List Char} (hs : Sealed separatesAvas s)
    (hblank : s.all isBlank = false) {a : Ava} (ha : parseAva s = .ok a) :
    parseRdn s = .ok [a] := by
  unfold parseRdn
  rw [parts_of_sealed hs hblank]
  show [s].mapM parseAva = _
  rw [List.mapM_cons, ha]
  rfl

/-! ## Written values -/

/-- Of a written value the characters at the start are lost that are blanks but no spaces. -/
theorem dropWhile_flagged_eq_iff (value : String) :
    String.ofList (((flagged true value.toList).dropWhile Prod.snd).map Prod.fst) = value ↔
      ∀ c ∈ value.toList.head?, MayEnd c := by
  rw [← head?_flagged]
  generalize hl : flagged true value.toList = l
  have hchars : l.map Prod.fst = value.toList := by rw [← hl, map_fst_flagged]
  rw [← String.toList_inj, String.toList_ofList, ← hchars]
  constructor
  · intro h p hp
    have hlen := congrArg List.length h
    rw [List.length_map, List.length_map] at hlen
    have hkept := (List.dropWhile_sublist Prod.snd).eq_of_length hlen
    have hnot := List.head?_dropWhile_not Prod.snd l
    rw [hkept, hp] at hnot
    exact hnot
  · intro h
    cases l with
    | nil => rfl
    | cons p l => rw [List.dropWhile_cons, h p rfl]; rfl

/-- A type with a written value is one assertion of that type; the value is read back unless it
begins with a blank that is no space. -/
theorem parseAva_escapeValue {type : String} (ht : IsType type) (value : String) :
    ∃ read, parseAva (Dn.avaText ⟨type, value⟩).toList = .ok ⟨type, read⟩ ∧
      (read = value ↔ ∀ c ∈ value.toList.head?, MayEnd c) := by
  have hequals : '=' ∉ type.toList := fun hmem => absurd (ht.chars _ hmem) (by decide)
  have hspace : ∀ c ∈ (escapeFrom true value.toList).getLast?, c ≠ ' ' := by
    intro c hc
    rcases getLast?_escapeFrom true _ c hc with hb | ⟨hne, -⟩
    · rintro rfl
      exact absurd hb (by decide)
    · exact hne
  have hread := (spells_escapeFrom true value.toList).unescapeValue_of_ne_space hspace
  refine ⟨_, ?_, dropWhile_flagged_eq_iff value⟩
  apply parseAva_eq_ok_iff.mpr
  refine ⟨type.toList, escapeFrom true value.toList, ?_, ?_, _, hread, ?_⟩
  · rw [Dn.toList_avaText]
    exact cutAtEquals_append hequals _
  · rw [trim_type ht]
    simpa [ht.ne_nil] using ht.chars
  · rw [trim_type ht, String.ofList_toList]

theorem isPiece_avaText {a : Ava} (h : IsType a.type) : IsPiece (Dn.avaText a) where
  notBlank := by
    unfold blank
    rw [Dn.toList_avaText, List.all_append, List.all_cons, show isBlank '=' = false by decide,
      Bool.false_and, Bool.and_false]
  isSealed := Dn.sealed_avaText (fun _ => isSpecial_of_separatesRdns) rfl h
  notExtended := by
    rw [Dn.toList_avaText]
    intro hhead
    exact absurd (head?_trim_type h _ _ hhead) (by decide)

namespace Dn

/-- One relative name in front of a name. -/
theorem parse_cons {p rest : String} (hp : IsPiece p) {r : Rdn} (hr : parseRdn p.toList = .ok r)
    (hrest : blank rest = false) {d : Dn} (hd : Dn.parse rest = .ok d)
    (hx : d.isExtended = false) :
    Dn.parse (p ++ "," ++ rest) = .ok ⟨trimmed (p ++ "," ++ rest), .plain (r :: d.rdns)⟩ := by
  have htext : (p ++ "," ++ rest).toList = p.toList ++ ',' :: rest.toList := by
    rw [String.toList_append, String.toList_append, List.append_assoc]
    rfl
  -- the blanks at the end of the whole are those at the end of the name behind
  have hne : Text.dropEndWhile isBlank rest.toList ≠ [] := dropEndWhile_ne_nil hrest
  have hbehind : parseRdns (Text.dropEndWhile isBlank rest.toList) = .ok d.rdns := by
    rw [← parseRdns_trim hrest]
    exact parseRdns_of_parse hd hx
  have hblank : (p.toList ++ ',' :: rest.toList).all isBlank = false := by
    rw [List.all_append, show p.toList.all isBlank = false from hp.notBlank, Bool.false_and]
  apply parse_of_parseRdns
  · rw [htext, head?_trim_append hp.notBlank]
    exact hp.notExtended
  · rw [htext, parseRdns_trim hblank, List.append_cons, dropEndWhile_append_of_ne_nil hne,
      ← List.append_cons]
    exact parseRdns_cons hp.isSealed hp.notBlank hr hne hbehind

/-- **A written value in front of a name** adds one relative name of one assertion and leaves those
of the name as they are. -/
theorem parse_escapeValue_cons {type value rest : String} {d : Dn} (ht : IsType type)
    (hrest : blank rest = false) (hd : Dn.parse rest = .ok d) (hx : d.isExtended = false) :
    ∃ e read, Dn.parse (type ++ "=" ++ escapeValue value ++ "," ++ rest) = .ok e ∧
      e.form = .plain ([⟨type, read⟩] :: d.rdns) ∧
      (read = value ↔ ∀ c ∈ value.toList.head?, MayEnd c) := by
  obtain ⟨read, hread, hsame⟩ := parseAva_escapeValue ht value
  have hpiece : IsPiece (avaText ⟨type, value⟩) := isPiece_avaText ht
  have hsealed : Sealed separatesAvas (avaText ⟨type, value⟩).toList :=
    sealed_avaText (fun _ => isSpecial_of_separatesAvas) rfl ht
  have hrdn : parseRdn (avaText ⟨type, value⟩).toList = .ok [⟨type, read⟩] :=
    parseRdn_of_sealed hsealed hpiece.notBlank hread
  exact ⟨_, read, parse_cons hpiece hrdn hrest hd hx, rfl, hsame⟩

/-- a value that would add relative names, take a separator from the name behind it, or end in a
backslash of its own, were it not for the writing -/
def hostile : String := "\t, dc=evil+cn=\\2c\"#<;=\\"

/-- the name of a parent, with blanks around it and an escaped one inside -/
def parent : String := " ou=a\\, b\\ ; dc=com "

def parentName : Dn :=
  ⟨"ou=a\\, b\\ ; dc=com", .plain [[⟨"ou", "a, b "⟩], [⟨"dc", "com"⟩]]⟩

theorem parse_hostile : IsType "cn" ∧ blank parent = false ∧ Dn.parse parent = .ok parentName ∧
    parentName.isExtended = false ∧
    ∃ e read, Dn.parse ("cn" ++ "=" ++ escapeValue hostile ++ "," ++ parent) = .ok e ∧
      e.form = .plain ([⟨"cn", read⟩] :: parentName.rdns) ∧
      (read = hostile ↔ ∀ c ∈ hostile.toList.head?, MayEnd c) := by
  have ht : IsType "cn" := by decide
  have hblank : blank parent = false := by decide
  have hparent : Dn.parse parent = .ok parentName := by decide
  exact ⟨ht, hblank, hparent, rfl, parse_escapeValue_cons ht hblank hparent rfl⟩

end Dn

end DirectoryClient
