import DirectoryClient.Dn.Schema
import DirectoryClient.Proofs.Attempts
import DirectoryClient.Proofs.Text.Blank

/-!
# What is read as a name

* `Dn.parse_of_blank`          a blank text is read as the name above all others;
* `Rdn.IsProper`               what every relative name that is read is like (`isProper_of_parse`);
* `Dn.isRoot_iff_of_parse`     no other text is;
* `Dn.parse_trimmed`, `Dn.isExtended_iff_of_parse`   blanks around a text mean nothing, and its
                               first character tells whether it names an extended name;
* `qualify_cases`              qualifying keeps the text and goes from one relative name to the next.
-/

namespace DirectoryClient

open DirectoryClient.Text

/-- a type as names hold it -/
structure IsType (type : String) : Prop where
  ne_nil : type.toList ≠ []
  chars : ∀ c ∈ type.toList, isTypeChar c = true

theorem isType_iff {type : String} :
    IsType type ↔ type.toList ≠ [] ∧ type.toList.all isTypeChar = true := by
  rw [List.all_eq_true]
  constructor
  · rintro ⟨hne, hchars⟩
    exact ⟨hne, hchars⟩
  · rintro ⟨hne, hchars⟩
    exact ⟨hne, hchars⟩

instance (type : String) : Decidable (IsType type) := decidable_of_iff' _ isType_iff

/-- a relative name as it is read: not empty, its assertions with types -/
structure Rdn.IsProper (r : Rdn) : Prop where
  ne_nil : r ≠ []
  named : ∀ a ∈ r, IsType a.type

theorem isType_of_parseAva {s : List Char} {a : Ava} (h : parseAva s = .ok a) : IsType a.type := by
  unfold parseAva at h
  split at h
  · cases h
  · next t v _ =>
    dsimp only at h
    split at h
    · cases h
    · next hok =>
      obtain ⟨value, -, rfl⟩ : ∃ value, unescapeValue v = .ok value ∧
          ⟨String.ofList (trim t), value⟩ = a := by
        cases hv : unescapeValue v with
        | error e => rw [hv] at h; cases h
        | ok value => rw [hv] at h; exact ⟨value, rfl, Except.ok.inj h⟩
      obtain ⟨hne, hchars⟩ : trim t ≠ [] ∧ ∀ c ∈ trim t, isTypeChar c = true := by
        simpa using hok
      exact ⟨by rwa [String.toList_ofList], by rwa [String.toList_ofList]⟩

theorem ne_nil_of_parts {separator : Char → Bool} {s : List Char} {ps : List (List Char)}
    (h : parts separator s = .ok ps) : ps ≠ [] := by
  unfold parts at h
  split at h
  · cases h
  · next qs hq =>
    split at h
    · cases h
    · obtain rfl := Except.ok.inj h
      exact splitUnescaped_ne_nil separator s qs hq

/-- Parts that are read one by one. -/
theorem of_mapM_parts {α : Type} {separator : Char → Bool} {s : List Char}
    {f : List Char → Except DnFlaw α} {l : List α}
    (h : (parts separator s >>= fun ps => ps.mapM f) = .ok l) :
    l ≠ [] ∧ ∀ y ∈ l, ∃ x, f x = .ok y := by
  cases hp : parts separator s with
  | error e => rw [hp] at h; cases h
  | ok ps =>
    rw [hp] at h
    have hm : ps.mapM f = .ok l := h
    refine ⟨fun hl => ne_nil_of_parts hp ?_, fun y hy => ?_⟩
    · have hlen := length_of_mapM hm
      rw [hl, List.length_nil] at hlen
      exact List.length_eq_zero_iff.mp hlen.symm
    · obtain ⟨x, -, hx⟩ := exists_of_mapM hm y hy
      exact ⟨x, hx⟩

theorem isProper_of_parseRdn {s : List Char} {r : Rdn} (h : parseRdn s = .ok r) :
    Rdn.IsProper r := by
  obtain ⟨hne, hall⟩ := of_mapM_parts h
  refine ⟨hne, fun a ha => ?_⟩
  obtain ⟨x, hx⟩ := hall a ha
  exact isType_of_parseAva hx

theorem parseRdns_cases {s : List Char} {rdns : List Rdn} (h : parseRdns s = .ok rdns) :
    (s = [] ↔ rdns = []) ∧ ∀ r ∈ rdns, Rdn.IsProper r := by
  unfold parseRdns at h
  split at h
  · next hs =>
    obtain rfl : [] = rdns := Except.ok.inj h
    exact ⟨⟨fun _ => rfl, fun _ => List.isEmpty_iff.mp hs⟩, List.forall_mem_nil _⟩
  · next hs =>
    obtain ⟨hne, hall⟩ := of_mapM_parts h
    refine ⟨⟨fun h0 => absurd (List.isEmpty_iff.mpr h0) hs, fun h0 => absurd h0 hne⟩, ?_⟩
    intro r hr
    obtain ⟨x, hx⟩ := hall r hr
    exact isProper_of_parseRdn hx

namespace Dn

/-- A text is read as an extended name, or as a plain one whose relative names are proper. -/
theorem parse_cases {text : String} {d : Dn} (h : Dn.parse text = .ok d) :
    d.form = .extended ∨ ∃ rdns, d.form = .plain rdns ∧ (blank text = true ↔ rdns = []) ∧
      ∀ r ∈ rdns, Rdn.IsProper r := by
  unfold Dn.parse at h
  cases hf : Form.parse (trim text.toList) with
  | error e => rw [hf] at h; cases h
  | ok form =>
    rw [hf] at h
    obtain rfl := Except.ok.inj h
    unfold Form.parse at hf
    split at hf
    · split at hf
      · exact .inl (Except.ok.inj hf).symm
      · cases hf
    · cases hr : parseRdns (trim text.toList) with
      | error e => rw [hr] at hf; cases hf
      | ok rdns =>
        rw [hr] at hf
        obtain ⟨hnil, hall⟩ := parseRdns_cases hr
        refine .inr ⟨rdns, (Except.ok.inj hf).symm, ?_, hall⟩
        rw [← hnil, trim_eq_nil_iff]
        rfl

theorem isProper_of_parse {text : String} {d : Dn} (h : Dn.parse text = .ok d) :
    ∀ r ∈ d.rdns, Rdn.IsProper r := by
  rcases parse_cases h with hf | ⟨rdns, hf, -, hall⟩
  · rw [rdns, hf]
    exact List.forall_mem_nil _
  · rwa [Dn.rdns, hf]

/-- A blank text is the name above all others. -/
theorem parse_of_blank {text : String} (h : blank text = true) :
    Dn.parse text = .ok root := by
  have ht : trim text.toList = [] := trim_eq_nil_iff.mpr h
  have hs : trimmed text = "" := by rw [trimmed, ht]
  rw [Dn.parse, ht, hs]
  rfl

theorem isRoot_iff_of_parse {text : String} {d : Dn} (h : Dn.parse text = .ok d) :
    d.isRoot = blank text := by
  cases hb : blank text with
  | true =>
    obtain rfl := Except.ok.inj ((parse_of_blank hb).symm.trans h)
    rfl
  | false =>
    rcases parse_cases h with hf | ⟨rdns, hf, hnil, -⟩
    · simp [isRoot, isExtended, hf]
    · have hne : rdns ≠ [] := fun h0 => by rw [hnil.mpr h0] at hb; cases hb
      simp [isRoot, isExtended, Dn.rdns, hf, hne]

/-- Blanks around a text mean nothing. -/
theorem parse_trimmed {text : String} {d : Dn} (h : Dn.parse text = .ok d) :
    Dn.parse (trimmed text) = .ok d := by
  have hlist : trim (trimmed text).toList = trim text.toList := by
    rw [trimmed, String.toList_ofList, trim_trim]
  have htext : trimmed (trimmed text) = trimmed text := congrArg String.ofList hlist
  unfold Dn.parse at h ⊢
  rw [hlist, htext]
  cases hf : Form.parse (trim text.toList) with
  | error flaw => rw [hf] at h; cases h
  | ok form => rw [hf] at h; exact h

theorem text_of_parse {text : String} {d : Dn} (h : Dn.parse text = .ok d) :
    d.text = trimmed text := by
  unfold Dn.parse at h
  cases hf : Form.parse (trim text.toList) with
  | error flaw => rw [hf] at h; cases h
  | ok form =>
    rw [hf] at h
    obtain rfl := Except.ok.inj h
    rfl

theorem isExtended_iff_of_parse {text : String} {d : Dn} (h : Dn.parse text = .ok d) :
    d.isExtended = true ↔ (trim text.toList).head? = some '<' := by
  unfold Dn.parse at h
  cases hf : Form.parse (trim text.toList) with
  | error flaw => rw [hf] at h; cases h
  | ok form =>
    rw [hf] at h
    obtain rfl := Except.ok.inj h
    unfold Form.parse at hf
    split at hf
    case isTrue hhead =>
      split at hf
      · obtain rfl := Except.ok.inj hf
        exact iff_of_true rfl hhead
      · cases hf
    case isFalse hhead =>
      cases hr : parseRdns (trim text.toList) with
      | error flaw => rw [hr] at hf; cases hf
      | ok rdns =>
        rw [hr] at hf
        obtain rfl := Except.ok.inj hf
        exact iff_of_false nofun hhead

/-- A name that is not extended is read as its relative names. -/
theorem parse_of_parseRdns {text : String} {rdns : List Rdn}
    (hhead : (trim text.toList).head? ≠ some '<') (h : parseRdns (trim text.toList) = .ok rdns) :
    Dn.parse text = .ok ⟨trimmed text, .plain rdns⟩ := by
  unfold Dn.parse Form.parse
  rw [if_neg hhead, h]
  rfl

theorem parseRdns_of_parse {text : String} {d : Dn} (h : Dn.parse text = .ok d)
    (hx : d.isExtended = false) : parseRdns (trim text.toList) = .ok d.rdns := by
  have hhead : ¬ (trim text.toList).head? = some '<' := by
    rw [← isExtended_iff_of_parse h, hx]
    exact Bool.false_ne_true
  unfold Dn.parse Form.parse at h
  rw [if_neg hhead] at h
  cases hr : parseRdns (trim text.toList) with
  | error flaw =>
    rw [hr] at h
    cases h
  | ok rdns =>
    rw [hr] at h
    obtain rfl := Except.ok.inj h
    rfl

end Dn

namespace Schema

/-- Qualifying keeps the text and goes from one relative name to the next. -/
theorem qualify_cases {schema : Schema} {d q : Dn} (h : schema.qualify d = .ok q) :
    d.isExtended = false ∧ q.text = d.text ∧ ∃ rdns, q.form = .qualified rdns ∧
      d.rdns.mapM (schema.qualifyRdn d.text) = .ok rdns := by
  unfold qualify at h
  split at h
  · cases h
  · next he =>
    cases hm : d.rdns.mapM (schema.qualifyRdn d.text) with
    | error e => rw [hm] at h; cases h
    | ok rdns =>
      rw [hm] at h
      obtain rfl := Except.ok.inj h
      exact ⟨Bool.eq_false_iff.mpr he, rfl, rdns, rfl, rfl⟩

theorem isRoot_of_qualify {schema : Schema} {d q : Dn} (h : schema.qualify d = .ok q) :
    q.isRoot = d.isRoot := by
  obtain ⟨he, -, rdns, hf, hm⟩ := qualify_cases h
  have hlen := length_of_mapM hm
  have hnil : rdns.isEmpty = d.rdns.isEmpty := by
    rw [Bool.eq_iff_iff, List.isEmpty_iff_length_eq_zero, List.isEmpty_iff_length_eq_zero, hlen]
  have hq : q.rdns = rdns := by rw [Dn.rdns, hf]
  have hx : q.isExtended = false := by rw [Dn.isExtended, hf]; rfl
  rw [Dn.isRoot, Dn.isRoot, he, hx, hq, hnil]

end Schema

end DirectoryClient
