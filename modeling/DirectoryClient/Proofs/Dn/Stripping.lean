import DirectoryClient.Proofs.Dn.Writing

/-!
# Blanks at the ends of a value

Reading a name takes away the blanks at the ends of its last value.  A space at either end of a value
is written by its number and stays; all other blanks are written as they are.

* `flagged`               the characters of a value, each with whether it is a blank that is written
                          as it is;
* `stripped`              a value without those blanks at its ends (`stripped_eq_self_iff`);
* `Spells`                a text in which characters are written, flagged ones as they are
                          (`spells_escapeFrom`);
* `Spells.trimStart`, `Spells.dropEndWhile`   what trimming does to such a text;
* `parse_escapeValue`     a written value alone in a name is read as the stripped one.
-/

namespace DirectoryClient

open DirectoryClient.Text

/-- the characters of a value, each with whether it is a blank that is written as it is -/
def flagged (first : Bool) : List Char → List (Char × Bool)
  | [] => []
  | c :: s => (c, isBlank c && !(c == ' ' && (first || s.isEmpty))) :: flagged false s

/-- a value without the blanks at its ends that are written as they are -/
def stripped (value : String) : String :=
  String.ofList
    ((((flagged true value.toList).rdropWhile Prod.snd).dropWhile Prod.snd).map Prod.fst)

theorem map_fst_flagged (first : Bool) (v : List Char) : (flagged first v).map Prod.fst = v := by
  induction v generalizing first with
  | nil => rfl
  | cons c v ih => rw [flagged, List.map_cons, ih]

/-! ## The ends of a value -/

/-- The first character of a value is not flagged if it may stand there. -/
theorem head?_flagged (v : List Char) : (∀ p ∈ (flagged true v).head?, p.2 = false) ↔
    ∀ c ∈ v.head?, MayEnd c := by
  cases v with
  | nil => exact iff_of_true (fun p hp => by cases hp) (fun c hc => by cases hc)
  | cons c v => simp [flagged, MayEnd]

/-- The last one neither. -/
theorem getLast?_flagged (first : Bool) (v : List Char) :
    (∀ p ∈ (flagged first v).getLast?, p.2 = false) ↔ ∀ c ∈ v.getLast?, MayEnd c := by
  induction v generalizing first with
  | nil => exact iff_of_true (fun p hp => by cases hp) (fun c hc => by cases hc)
  | cons c v ih =>
    cases v with
    | nil => simp [flagged, MayEnd]
    | cons d v =>
      have hlast := ih false
      rw [flagged] at hlast
      rw [flagged, flagged, List.getLast?_cons_cons, List.getLast?_cons_cons]
      exact hlast

section
variable {α : Type} {q : α → Bool} {l : List α}

/-- Nothing is dropped from a list exactly if both its ends stay. -/
theorem dropWhile_rdropWhile_eq_self_iff : (l.rdropWhile q).dropWhile q = l ↔
    (∀ a ∈ l.head?, q a = false) ∧ ∀ a ∈ l.getLast?, q a = false := by
  constructor
  · intro h
    have hfront : ((l.rdropWhile q).dropWhile q).Sublist (l.rdropWhile q) :=
      List.dropWhile_sublist q
    have hback : (l.rdropWhile q).Sublist l := (List.rdropWhile_prefix q l).sublist
    have hlen : l.length ≤ (l.rdropWhile q).length := by
      have hle := hfront.length_le
      rwa [h] at hle
    have hkept : l.rdropWhile q = l := hback.eq_of_length_le hlen
    rw [hkept] at h
    constructor
    · intro a ha
      have hnot := List.head?_dropWhile_not q l
      rw [h, ha] at hnot
      exact hnot
    · intro a ha
      obtain ⟨hne, rfl⟩ := List.mem_getLast?_eq_getLast ha
      exact Bool.eq_false_iff.mpr (List.rdropWhile_eq_self_iff.mp hkept hne)
  · rintro ⟨hfirst, hlast⟩
    have hkept : l.rdropWhile q = l := by
      apply List.rdropWhile_eq_self_iff.mpr
      intro hne hq
      rw [hlast _ (List.getLast?_eq_some_getLast hne)] at hq
      cases hq
    rw [hkept]
    cases l with
    | nil => rfl
    | cons a l => rw [List.dropWhile_cons, hfirst a rfl]; rfl

end

/-- A value is stripped of nothing exactly if both its ends may stand there. -/
theorem stripped_eq_self_iff (value : String) : stripped value = value ↔
    (∀ c ∈ value.toList.head?, MayEnd c) ∧ ∀ c ∈ value.toList.getLast?, MayEnd c := by
  rw [← head?_flagged, ← getLast?_flagged true, ← dropWhile_rdropWhile_eq_self_iff]
  generalize hl : flagged true value.toList = l
  have hchars : l.map Prod.fst = value.toList := by rw [← hl, map_fst_flagged]
  have hdef : stripped value =
      String.ofList (((l.rdropWhile Prod.snd).dropWhile Prod.snd).map Prod.fst) := by
    rw [stripped, hl]
  constructor
  · intro h
    -- what is left is a part of what there was, and as long
    have htext : ((l.rdropWhile Prod.snd).dropWhile Prod.snd).map Prod.fst = l.map Prod.fst := by
      have hleft := congrArg String.toList h
      rwa [hdef, String.toList_ofList, ← hchars] at hleft
    have hlen : ((l.rdropWhile Prod.snd).dropWhile Prod.snd).length = l.length := by
      have hlen := congrArg List.length htext
      rwa [List.length_map, List.length_map] at hlen
    have hpart : ((l.rdropWhile Prod.snd).dropWhile Prod.snd).Sublist l :=
      (List.dropWhile_sublist _).trans (List.rdropWhile_prefix _ _).sublist
    exact hpart.eq_of_length hlen
  · intro h
    rw [hdef, h, hchars, String.ofList_toList]

/-! ## Written characters -/

/-- how a character is written: a flagged blank as it is, everything else so that neither end is a
blank -/
inductive Spells : List (Char × Bool) → List Char → Prop
  | nil : Spells [] []
  | bare {c : Char} (hc : isBlank c = true) {l : List (Char × Bool)} {t : List Char}
      (h : Spells l t) : Spells ((c, true) :: l) (c :: t)
  | firm {c : Char} {first last : Bool}
      (hfirst : ∀ d ∈ (escapeChar first last c).head?, isBlank d = false)
      (hlast : ∀ d ∈ (escapeChar first last c).getLast?, isBlank d = false)
      {l : List (Char × Bool)} {t : List Char} (h : Spells l t) :
      Spells ((c, false) :: l) (escapeChar first last c ++ t)

theorem spells_escapeChar {l : List (Char × Bool)} {t : List Char} (h : Spells l t)
    (first last : Bool) (c : Char) :
    Spells ((c, isBlank c && !(c == ' ' && (first || last))) :: l)
      (escapeChar first last c ++ t) := by
  have hnumber {x y : Char} (he : escapeChar first last c = ['\\', x, y])
      (hy : isBlank y = false)
      (hflag : (isBlank c && !(c == ' ' && (first || last))) = false) :
      Spells ((c, isBlank c && !(c == ' ' && (first || last))) :: l)
        (escapeChar first last c ++ t) := by
    rw [hflag]
    refine .firm ?_ ?_ h <;> rw [he] <;> intro d hd <;> obtain rfl := Option.some.inj hd
    · decide
    · exact hy
  rcases escapeChar_cases first last c with ⟨hs, he⟩ | ⟨rfl, he⟩ | ⟨rfl, he⟩ | ⟨rfl, he⟩ |
    ⟨-, hsp, he⟩
  · have hb := (isSpecial_cases hs).2
    rw [hb, Bool.false_and]
    refine .firm ?_ ?_ h <;> rw [he] <;> intro d hd <;> obtain rfl := Option.some.inj hd
    · decide
    · exact hb
  · exact hnumber he (by decide) rfl
  · -- a space is written by its number at either end only
    have hends : (first || last) = true := by
      cases first <;> cases last <;> first | rfl | exact absurd he (by decide)
    exact hnumber he (by decide) (by rw [hends]; rfl)
  · exact hnumber he (by decide) rfl
  · have hflag : (isBlank c && !(c == ' ' && (first || last))) = isBlank c := by
      by_cases hc : c = ' '
      · obtain ⟨rfl, rfl⟩ := hsp hc
        simp
      · simp [hc]
    rw [hflag]
    cases hb : isBlank c with
    | true =>
      rw [he]
      exact .bare hb h
    | false =>
      refine .firm ?_ ?_ h <;> rw [he] <;> intro d hd <;> obtain rfl := Option.some.inj hd <;>
        exact hb

theorem spells_escapeFrom (first : Bool) (v : List Char) :
    Spells (flagged first v) (escapeFrom first v) := by
  induction v generalizing first with
  | nil => exact .nil
  | cons c v ih => exact spells_escapeChar (ih false) first v.isEmpty c

namespace Spells

variable {l l' : List (Char × Bool)} {s t : List Char}

theorem append (h : Spells l s) (h' : Spells l' t) : Spells (l ++ l') (s ++ t) := by
  induction h with
  | nil => exact h'
  | bare hc _ ih => exact .bare hc ih
  | firm hfirst hlast _ ih =>
    rw [List.append_assoc]
    exact .firm hfirst hlast ih

theorem exists_of_append (h : Spells (l ++ l') t) :
    ∃ s s', t = s ++ s' ∧ Spells l s ∧ Spells l' s' := by
  induction l generalizing t with
  | nil => exact ⟨[], t, rfl, .nil, h⟩
  | cons p l ih =>
    cases h with
    | bare hc h =>
      obtain ⟨s, s', rfl, hs, hs'⟩ := ih h
      exact ⟨_, s', rfl, .bare hc hs, hs'⟩
    | firm hfirst hlast h =>
      obtain ⟨s, s', rfl, hs, hs'⟩ := ih h
      exact ⟨_, s', (List.append_assoc _ s s').symm, .firm hfirst hlast hs, hs'⟩

/-! ## Trimming -/

theorem trimStart (h : Spells l t) : Spells (l.dropWhile Prod.snd) (Text.trimStart t) := by
  induction h with
  | nil => exact .nil
  | @bare c hc l t _ ih =>
    rw [List.dropWhile_cons_of_pos rfl, Text.trimStart, List.dropWhile_cons_of_pos hc]
    exact ih
  | @firm c first last hfirst hlast l t h ih =>
    have hkept : Text.trimStart (escapeChar first last c ++ t) = escapeChar first last c ++ t := by
      apply trimStart_eq_self
      rwa [List.head?_append_of_ne_nil _ (escapeChar_ne_nil first last c)]
    rw [hkept, List.dropWhile_cons_of_neg Bool.false_ne_true]
    exact .firm hfirst hlast h

theorem dropEndWhile (h : Spells l t) :
    Spells (l.rdropWhile Prod.snd) (Text.dropEndWhile isBlank t) := by
  -- from the end on, one character at a time
  induction l using List.reverseRecOn generalizing t with
  | nil =>
    cases h
    exact .nil
  | append_singleton l p ih =>
    obtain ⟨s, s', rfl, hs, hs'⟩ := h.exists_of_append
    cases hs' with
    | @bare c hc _ t hnil =>
      cases hnil
      have hdrop : Text.dropEndWhile isBlank (s ++ [c]) = Text.dropEndWhile isBlank s :=
        List.rdropWhile_concat_pos _ _ _ hc
      rw [hdrop, List.rdropWhile_concat_pos _ _ _ rfl]
      exact ih hs
    | @firm c first last hfirst hlast _ t hnil =>
      cases hnil
      have hkept : Text.dropEndWhile isBlank (s ++ (escapeChar first last c ++ [])) =
          s ++ (escapeChar first last c ++ []) := by
        apply dropEndWhile_eq_self
        rwa [List.append_nil, List.getLast?_append_of_ne_nil _ (escapeChar_ne_nil first last c)]
      rw [hkept, List.rdropWhile_concat_neg _ _ _ Bool.false_ne_true]
      exact hs.append (.firm hfirst hlast .nil)

/-! ## Reading -/

theorem unescapeBytes_eq (h : Spells l t) :
    unescapeBytes t = some (Utf8.encode (l.map Prod.fst)) := by
  induction h with
  | nil => rfl
  | @bare c hc l t _ ih =>
    have hb : c ≠ '\\' := by
      rintro rfl
      exact absurd hc (by decide)
    rw [unescapeBytes_cons hb, ih]
    rfl
  | @firm c first last _ _ l t _ ih =>
    rw [unescapeBytes_escapeChar, ih]
    rfl

theorem isSealed (h : Spells l t) {separator : Char → Bool}
    (hs : ∀ c, separator c = true → isSpecial c = true) : Sealed separator t := by
  induction h with
  | nil => exact .nil
  | @bare c hc l t _ ih =>
    refine .plain ?_ (Bool.eq_false_iff.mpr fun hsep => ?_) ih
    · rintro rfl
      exact absurd hc (by decide)
    · rw [(isSpecial_cases (hs c hsep)).2] at hc
      cases hc
  | firm _ _ _ ih => exact (sealed_escapeChar hs _ _ _).append ih

/-- What is read from a text without a space at its end. -/
theorem unescapeValue_of_ne_space (h : Spells l t) (hlast : ∀ c ∈ t.getLast?, c ≠ ' ') :
    unescapeValue t = .ok (String.ofList ((l.dropWhile Prod.snd).map Prod.fst)) := by
  have hstart : ∀ c ∈ (Text.trimStart t).getLast?, (c == ' ') = false := by
    intro c hc
    exact beq_eq_false_iff_ne.mpr (hlast c (getLast?_dropWhile c hc))
  have hvalue : trimValue t = Text.trimStart t := by
    simp [trimValue, dropEndWhile_eq_self hstart]
  rw [unescapeValue, hvalue, h.trimStart.unescapeBytes_eq]
  dsimp only
  rw [Utf8.decode_encode]

/-- What is read from a text without a blank at its end. -/
theorem unescapeValue_eq (h : Spells l t) (hlast : ∀ c ∈ t.getLast?, isBlank c = false) :
    unescapeValue t = .ok (String.ofList ((l.dropWhile Prod.snd).map Prod.fst)) := by
  apply h.unescapeValue_of_ne_space
  rintro c hc rfl
  exact absurd (hlast ' ' hc) (by decide)

end Spells

/-! ## Written values alone in a name -/

namespace Dn

/-- Trimming a name takes away nothing before its value. -/
theorem trim_cn (t : List Char) :
    trim ("cn=".toList ++ t) = "cn=".toList ++ Text.dropEndWhile isBlank t := by
  have hstart : Text.trimStart ("cn=".toList ++ t) = "cn=".toList ++ t :=
    trimStart_eq_self fun c hc => by obtain rfl := Option.some.inj hc; decide
  have hequals : ∀ c ∈ "cn=".toList.getLast?, isBlank c = false :=
    fun c hc => by obtain rfl := Option.some.inj hc; decide
  rw [trim, hstart, dropEndWhile_append hequals]

theorem parseAva_cn (t : List Char) :
    parseAva ("cn=".toList ++ t) = (unescapeValue t).map (⟨"cn", ·⟩) := by
  have hcut : cutAtEquals ("cn=".toList ++ t) = some ("cn".toList, t) :=
    cutAtEquals_append (t := "cn".toList) (by decide) t
  rw [parseAva, hcut]
  rfl

theorem parseRdns_cn {t : List Char}
    (h : ∀ separator, (∀ c, separator c = true → isSpecial c = true) → Sealed separator t) :
    parseRdns ("cn=".toList ++ t) = (unescapeValue t).map fun value => [[⟨"cn", value⟩]] := by
  have hone (separator : Char → Bool) (hs : ∀ c, separator c = true → isSpecial c = true)
      (he : separator '=' = false) :
      parts separator ("cn=".toList ++ t) = .ok ["cn=".toList ++ t] := by
    have hplain {c : Char} (hc : isSpecial c = false) : separator c = false := by
      refine Bool.eq_false_iff.mpr fun hsep => ?_
      rw [hs c hsep] at hc
      cases hc
    have hcn : Sealed separator "cn=".toList :=
      .plain (by decide) (hplain (by decide)) (.plain (by decide) (hplain (by decide))
        (.plain (by decide) he .nil))
    exact parts_of_sealed (hcn.append (h separator hs)) rfl
  have hrdn : parseRdn ("cn=".toList ++ t) = (unescapeValue t).map fun value => [⟨"cn", value⟩] := by
    rw [parseRdn, hone _ (fun _ => isSpecial_of_separatesAvas) rfl]
    show [_].mapM parseAva = _
    rw [List.mapM_cons, parseAva_cn]
    cases unescapeValue t <;> rfl
  rw [parseRdns, if_neg (by simp), hone _ (fun _ => isSpecial_of_separatesRdns) rfl]
  show [_].mapM parseRdn = _
  rw [List.mapM_cons, hrdn]
  cases unescapeValue t <;> rfl

theorem parse_cn {value : String} {form : Form}
    (h : Form.parse (trim ("cn=".toList ++ escapeFrom true value.toList)) = .ok form) :
    ∃ d, Dn.parse ("cn=" ++ escapeValue value) = .ok d ∧ d.form = form := by
  have htext : ("cn=" ++ escapeValue value).toList =
      "cn=".toList ++ escapeFrom true value.toList := by
    simp [escapeValue]
  refine ⟨⟨trimmed ("cn=" ++ escapeValue value), form⟩, ?_, rfl⟩
  rw [Dn.parse, htext, h]

/-- **A written value alone in a name is read as the stripped one**, which is the value itself
exactly if both its ends may stand there. -/
theorem parse_escapeValue (value : String) :
    (∃ d, Dn.parse ("cn=" ++ escapeValue value) = .ok d ∧
      d.form = .plain [[⟨"cn", stripped value⟩]]) ∧
    (stripped value = value ↔
      (∀ c ∈ value.toList.head?, MayEnd c) ∧ ∀ c ∈ value.toList.getLast?, MayEnd c) := by
  refine ⟨parse_cn ?_, stripped_eq_self_iff value⟩
  have hwritten := (spells_escapeFrom true value.toList).dropEndWhile
  have hplain (t : List Char) : ("cn=".toList ++ t).head? ≠ some '<' := by
    intro h
    exact absurd (Option.some.inj h) (by decide)
  rw [trim_cn, Form.parse, if_neg (hplain _), parseRdns_cn fun _ hs => hwritten.isSealed hs,
    hwritten.unescapeValue_eq getLast?_dropEndWhile]
  rfl

/-- A value that begins with a tabulator is not read back. -/
theorem leading_tab_lost : ¬ ∀ value : String, ∃ d, Dn.parse ("cn=" ++ escapeValue value) = .ok d ∧
    d.rdns = [[⟨"cn", value⟩]] := by
  intro hall
  obtain ⟨d, hd, hrdns⟩ := hall "\tx"
  have hread : Dn.parse ("cn=" ++ escapeValue "\tx") = .ok ⟨"cn=\tx", .plain [[⟨"cn", "x"⟩]]⟩ := by
    decide
  obtain rfl := Except.ok.inj (hread.symm.trans hd)
  exact absurd hrdns (by decide)

end Dn

end DirectoryClient
