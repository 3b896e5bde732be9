import DirectoryClient.Proofs.Dn.Endings

/-!
# Relative names at the end of a name and in front of others

The blanks at the end of a name are taken away before it is read, also if a backslash escapes the
first of them.  In front of another relative name they belong to the last value, which loses only
the spaces that no backslash escapes.

* `parseLastRdn`        a relative name at the end of a name;
* `Frayed`              a relative name whose last value loses more there than elsewhere
                        (`parseRdn_of_parseLastRdn`, `parseLastRdn_of_parseRdn`);
* `IsPiece`             a text that stands for one relative name (`exists_parse_intercalate_iff`);
* `PlaceFree`           relative names that are read alike in front of others and alone
                        (`placeFree_iff`).
-/

namespace DirectoryClient

open DirectoryClient.Text

/-! ## Reading one relative name -/

/-- a relative name at the end of a name -/
def parseLastRdn (s : List Char) : Except DnFlaw Rdn :=
  if endsEscaping (dropEndWhile isBlank s) then .error .trailingBackslash
  else parseRdn (dropEndWhile isBlank s)

/-- the value of the last assertion of a relative name, as it is written -/
def lastValue? (s : List Char) : Option (List Char) := do
  let ps ← splitUnescaped separatesAvas s
  let last ← ps.getLast?
  let (_, v) ← cutAtEquals last
  return v

/-- The last value keeps something behind it that trimming takes away. -/
def Frayed (s : List Char) : Prop := ∃ v ∈ lastValue? s, trimValue v ≠ trim v

instance (s : List Char) : Decidable (Frayed s) :=
  inferInstanceAs (Decidable (∃ v ∈ lastValue? s, trimValue v ≠ trim v))

theorem parseAva_eq_ok_iff {s : List Char} {a : Ava} : parseAva s = .ok a ↔
    ∃ t v, cutAtEquals s = some (t, v) ∧ ((trim t).isEmpty || !(trim t).all isTypeChar) = false ∧
      ∃ value, unescapeValue v = .ok value ∧ a = ⟨String.ofList (trim t), value⟩ := by
  unfold parseAva
  constructor
  · intro h
    cases hc : cutAtEquals s with
    | none => rw [hc] at h; cases h
    | some p =>
      obtain ⟨t, v⟩ := p
      rw [hc] at h
      dsimp only at h
      split at h
      · cases h
      · next hok =>
        cases hv : unescapeValue v with
        | error e => rw [hv] at h; cases h
        | ok value =>
          rw [hv] at h
          exact ⟨t, v, rfl, Bool.eq_false_iff.mpr hok, value, hv, (Except.ok.inj h).symm⟩
  · rintro ⟨t, v, hc, hok, value, hv, rfl⟩
    rw [hc]
    dsimp only
    rw [hok, hv]
    rfl

theorem parseRdn_eq_ok_iff {s last : List Char} {front : List (List Char)} {r : Rdn}
    (hcut : splitUnescaped separatesAvas s = some (front ++ [last])) :
    parseRdn s = .ok r ↔
      (front.any (·.all isBlank) = false ∧ last.all isBlank = false) ∧
        ∃ as a, front.mapM parseAva = .ok as ∧ parseAva last = .ok a ∧ r = as ++ [a] := by
  have hany : (front ++ [last]).any (·.all isBlank) =
      (front.any (·.all isBlank) || last.all isBlank) := by
    rw [List.any_append, List.any_cons, List.any_nil, Bool.or_false]
  rw [parseRdn, parts, hcut]
  dsimp only
  rw [hany, ← Bool.or_eq_false_iff]
  cases hb : front.any (·.all isBlank) || last.all isBlank with
  | true =>
    constructor
    · intro h
      cases h
    · intro h
      cases h.1
  | false =>
    rw [if_neg Bool.false_ne_true]
    show (front ++ [last]).mapM parseAva = _ ↔ _
    rw [mapM_concat_eq_ok_iff]
    exact ⟨fun h => ⟨rfl, h⟩, fun h => h.2⟩

theorem lastValue?_of_cut {s last : List Char} {front : List (List Char)}
    (hcut : splitUnescaped separatesAvas s = some (front ++ [last])) :
    lastValue? s = (cutAtEquals last).map Prod.snd := by
  rw [lastValue?, hcut]
  show ((front ++ [last]).getLast?.bind fun last =>
    (cutAtEquals last).bind fun p => some p.2) = _
  rw [List.getLast?_concat, Option.bind_some]
  cases cutAtEquals last <;> rfl

theorem eq_of_cutAtEquals {s t v : List Char} (h : cutAtEquals s = some (t, v)) :
    s = t ++ '=' :: v := by
  induction s generalizing t with
  | nil => cases h
  | cons c s ih =>
    rw [cutAtEquals] at h
    split at h
    · next hc =>
      cases h
      rw [hc]
      rfl
    · obtain ⟨⟨t', v'⟩, hrest, he⟩ := Option.map_eq_some_iff.mp h
      cases he
      rw [ih hrest]
      rfl

theorem cutAtEquals_append_of_not_mem {z : List Char} (hz : '=' ∉ z) (s : List Char) :
    cutAtEquals (s ++ z) = (cutAtEquals s).map fun (t, v) => (t, v ++ z) := by
  induction s with
  | nil =>
    have hnone : cutAtEquals z = none := by
      cases h : cutAtEquals z with
      | none => rfl
      | some p =>
        rw [eq_of_cutAtEquals h] at hz
        exact absurd (List.mem_append_right _ List.mem_cons_self) hz
    exact hnone
  | cons c s ih =>
    rw [List.cons_append, cutAtEquals, cutAtEquals]
    split
    · rfl
    · rw [ih, Option.map_map, Option.map_map]
      rfl

theorem cutAtEquals_prepend {z : List Char} (hz : '=' ∉ z) (s : List Char) :
    cutAtEquals (z ++ s) = (cutAtEquals s).map fun (t, v) => (z ++ t, v) := by
  induction z with
  | nil => cases hc : cutAtEquals s <;> simp [hc]
  | cons c z ih =>
    obtain ⟨hc, hz⟩ := not_or.mp (List.mem_cons.not.mp hz)
    rw [List.cons_append, cutAtEquals, if_neg (Ne.symm hc), ih hz, Option.map_map]
    rfl

/-! ## Blanks behind a relative name -/

theorem plain_of_isBlank {separator : Char → Bool}
    (hs : ∀ c, separator c = true → isSpecial c = true) {c : Char} (h : isBlank c = true) :
    c ≠ '\\' ∧ separator c = false := by
  refine ⟨ne_backslash_of_isBlank h, Bool.eq_false_iff.mpr fun hsep => ?_⟩
  rw [(isSpecial_cases (hs c hsep)).2] at h
  cases h

theorem equals_not_mem {blanks : List Char} (h : ∀ c ∈ blanks, isBlank c = true) :
    '=' ∉ blanks :=
  fun hc => absurd (h '=' hc) (by decide)

section
variable {s blanks : List Char} (hescape : endsEscaping s = false)
  (hlast : ∀ c ∈ s.getLast?, isBlank c = false) (hblanks : ∀ c ∈ blanks, isBlank c = true)

/-- The value at the end of a text ends like the text. -/
theorem value_of_text {front t v : List Char} (h : s = front ++ (t ++ '=' :: v)) :
    endsEscaping v = endsEscaping s ∧ ∀ c ∈ v.getLast?, c ∈ s.getLast? := by
  have hs : s = (front ++ t) ++ '=' :: v := by rw [h, List.append_assoc]
  constructor
  · rw [hs, endsEscaping_equals]
  · intro c hc
    have hne : v ≠ [] := by
      rintro rfl
      cases hc
    rwa [hs, List.append_cons, List.getLast?_append_of_ne_nil _ hne]

include hescape hlast hblanks

/-- Blanks behind a relative name leave it readable, and change its last value if they fray it. -/
theorem parseRdn_append_blanks {a : Rdn} (h : parseRdn s = .ok a) :
    ∃ b, parseRdn (s ++ blanks) = .ok b ∧ (b = a ↔ ¬ Frayed (s ++ blanks)) := by
  obtain ⟨front, last, hpart⟩ := exists_lastPart separatesAvas hescape
  obtain ⟨⟨hfront, hnonblank⟩, as, ava, has, hava, rfl⟩ := (parseRdn_eq_ok_iff hpart.cut).mp h
  obtain ⟨t, v, hcut, htype, value, hvalue, rfl⟩ := parseAva_eq_ok_iff.mp hava
  have hbehind := hpart.behind blanks fun c hc =>
    plain_of_isBlank (fun _ => isSpecial_of_separatesAvas) (hblanks c hc)
  have hcut' : cutAtEquals (last ++ blanks) = some (t, v ++ blanks) := by
    rw [cutAtEquals_append_of_not_mem (equals_not_mem hblanks), hcut]
    rfl
  obtain ⟨pre, hpre⟩ := hpart.ends
  have htext : s = pre ++ (t ++ '=' :: v) := by rw [← eq_of_cutAtEquals hcut, hpre]
  obtain ⟨hvescape, hvlast⟩ := value_of_text htext
  rw [hescape] at hvescape
  obtain ⟨value', hvalue', hsame⟩ := unescapeValue_append_blanks hvescape
    (fun c hc => hlast c (hvlast c hc)) hblanks hvalue
  refine ⟨as ++ [⟨String.ofList (trim t), value'⟩], (parseRdn_eq_ok_iff hbehind).mpr ?_, ?_⟩
  · have hstill : (last ++ blanks).all isBlank = false := by
      rw [List.all_append, hnonblank, Bool.false_and]
    exact ⟨⟨hfront, hstill⟩, as, _, has,
      parseAva_eq_ok_iff.mpr ⟨t, _, hcut', htype, value', hvalue', rfl⟩, rfl⟩
  · have hfrayed : Frayed (s ++ blanks) ↔ trimValue (v ++ blanks) ≠ trim (v ++ blanks) := by
      rw [Frayed, lastValue?_of_cut hbehind, hcut']
      simp
    rw [hfrayed, not_not, ← hsame]
    simp

/-- A relative name that is not frayed is read without the blanks behind it. -/
theorem parseRdn_of_append_blanks {b : Rdn} (h : parseRdn (s ++ blanks) = .ok b)
    (hfrayed : ¬ Frayed (s ++ blanks)) : parseRdn s = .ok b := by
  obtain ⟨front, last, hpart⟩ := exists_lastPart separatesAvas hescape
  have hbehind := hpart.behind blanks fun c hc =>
    plain_of_isBlank (fun _ => isSpecial_of_separatesAvas) (hblanks c hc)
  obtain ⟨⟨hfront, -⟩, as, ava, has, hava, rfl⟩ := (parseRdn_eq_ok_iff hbehind).mp h
  obtain ⟨t, w, hcut', htype, value, hvalue, rfl⟩ := parseAva_eq_ok_iff.mp hava
  have hcuts := hcut'
  rw [cutAtEquals_append_of_not_mem (equals_not_mem hblanks)] at hcuts
  obtain ⟨⟨t', v⟩, hcut, he⟩ := Option.map_eq_some_iff.mp hcuts
  obtain ⟨rfl, rfl⟩ := Prod.mk.inj he
  obtain ⟨pre, hpre⟩ := hpart.ends
  have htext : s = pre ++ (t' ++ '=' :: v) := by rw [← eq_of_cutAtEquals hcut, hpre]
  obtain ⟨hvescape, hvlast⟩ := value_of_text htext
  rw [hescape] at hvescape
  have hvfirm : ∀ c ∈ v.getLast?, isBlank c = false := fun c hc => hlast c (hvlast c hc)
  have hsame : trimValue (v ++ blanks) = trimValue v := by
    have hnot : ¬ trimValue (v ++ blanks) ≠ trim (v ++ blanks) := by
      intro hne
      refine hfrayed ⟨v ++ blanks, ?_, hne⟩
      rw [lastValue?_of_cut hbehind, hcut']
      rfl
    rw [not_not.mp hnot, trim_append_blanks hvfirm hblanks,
      trimValue_eq_trimStart hvescape hvfirm]
  have hread : unescapeValue v = .ok value := by
    rw [unescapeValue, ← hsame]
    exact hvalue
  have hnonblank : last.all isBlank = false := by
    rw [eq_of_cutAtEquals hcut, List.all_append, List.all_cons, show isBlank '=' = false by decide,
      Bool.false_and, Bool.and_false]
  exact (parseRdn_eq_ok_iff hpart.cut).mpr ⟨⟨hfront, hnonblank⟩, as, _, has,
    parseAva_eq_ok_iff.mpr ⟨t', v, hcut, htype, value, hread, rfl⟩, rfl⟩

end

/-- Trimming at both ends leaves a backslash where trimming at the end does. -/
theorem endsEscaping_trim {v : List Char} (h : endsEscaping (dropEndWhile isBlank v) = true) :
    endsEscaping (trim v) = true := by
  obtain ⟨front, hfront, hv⟩ := exists_blanks_append_trimStart v
  have hne : dropEndWhile isBlank (trimStart v) ≠ [] := by
    intro hnil
    have hall : dropEndWhile isBlank front = [] := List.rdropWhile_eq_nil_iff.mpr hfront
    rw [hv, dropEndWhile_append_of_eq_nil hnil, hall] at h
    exact absurd h (by decide)
  rw [hv, dropEndWhile_append_of_ne_nil hne, endsEscaping_append (endsEscaping_blanks hfront)] at h
  exact h

/-- If without the blanks at its end a relative name would end in a backslash, it is frayed. -/
theorem frayed_of_endsEscaping {s : List Char} {b : Rdn}
    (hescape : endsEscaping (dropEndWhile isBlank s) = true) (h : parseRdn s = .ok b) :
    Frayed s := by
  have hs : endsEscaping s = false := by
    refine Bool.eq_false_iff.mpr fun hs => ?_
    rw [parseRdn, parts, (splitUnescaped_eq_none_iff _ _).mpr hs] at h
    cases h
  obtain ⟨front, last, hpart⟩ := exists_lastPart separatesAvas hs
  obtain ⟨-, as, ava, -, hava, -⟩ := (parseRdn_eq_ok_iff hpart.cut).mp h
  obtain ⟨t, v, hcut, -, value, hvalue, -⟩ := parseAva_eq_ok_iff.mp hava
  obtain ⟨bytes, hbytes, -⟩ := unescapeValue_eq_ok_iff.mp hvalue
  refine ⟨v, by rw [lastValue?_of_cut hpart.cut, hcut]; rfl, fun hsame => ?_⟩
  -- the backslash is one of the value, whose reading would fail
  have hv : endsEscaping (dropEndWhile isBlank v) = true := by
    obtain ⟨pre, hpre⟩ := hpart.ends
    have htext : s = (pre ++ t ++ ['=']) ++ v := by
      rw [← hpre, eq_of_cutAtEquals hcut]
      simp
    have hequals : ∀ c ∈ (pre ++ t ++ ['=']).getLast?, isBlank c = false := by
      intro c hc
      rw [List.getLast?_concat] at hc
      obtain rfl := Option.some.inj hc
      decide
    rw [htext, dropEndWhile_append hequals, List.append_assoc, List.append_assoc,
      ← List.append_assoc, List.singleton_append, endsEscaping_equals] at hescape
    exact hescape
  have hnone := (unescapeBytes_eq_none_iff (trimValue v)).mpr (hsame ▸ endsEscaping_trim hv)
  rw [hnone] at hbytes
  cases hbytes

/-! ## At the end of a name and elsewhere -/

/-- What is read at the end is read elsewhere too, and as the same unless it is frayed. -/
theorem parseRdn_of_parseLastRdn {s : List Char} {a : Rdn} (h : parseLastRdn s = .ok a) :
    ∃ b, parseRdn s = .ok b ∧ (b = a ↔ ¬ Frayed s) := by
  obtain ⟨blanks, hblanks, hs⟩ := exists_dropEndWhile_append_blanks s
  unfold parseLastRdn at h
  split at h
  · cases h
  · next hescape =>
    rw [hs]
    exact parseRdn_append_blanks (Bool.eq_false_iff.mpr hescape) getLast?_dropEndWhile hblanks h

/-- What is read elsewhere is read at the end too unless it is frayed. -/
theorem parseLastRdn_of_parseRdn {s : List Char} {b : Rdn} (h : parseRdn s = .ok b)
    (hfrayed : ¬ Frayed s) : parseLastRdn s = .ok b := by
  cases hescape : endsEscaping (dropEndWhile isBlank s) with
  | true => exact absurd (frayed_of_endsEscaping hescape h) hfrayed
  | false =>
    obtain ⟨blanks, hblanks, hs⟩ := exists_dropEndWhile_append_blanks s
    rw [parseLastRdn, if_neg (Bool.eq_false_iff.mp hescape)]
    rw [hs] at h hfrayed
    exact parseRdn_of_append_blanks hescape getLast?_dropEndWhile hblanks h hfrayed

/-- Blanks in front mean nothing. -/
theorem parseAva_blanks_append {blanks : List Char} (h : ∀ c ∈ blanks, isBlank c = true)
    (s : List Char) : parseAva (blanks ++ s) = parseAva s := by
  have hcut : cutAtEquals (blanks ++ s) = (cutAtEquals s).map fun (t, v) => (blanks ++ t, v) :=
    cutAtEquals_prepend (equals_not_mem h) s
  rw [parseAva, hcut, parseAva]
  cases hc : cutAtEquals s with
  | none =>
    show Except.error (DnFlaw.missingEquals (String.ofList (trim (blanks ++ s)))) = _
    rw [trim_blanks_append h]
  | some p =>
    obtain ⟨t, v⟩ := p
    dsimp only [Option.map_some]
    rw [trim_blanks_append h]

theorem sealed_blanks {separator : Char → Bool} (hs : ∀ c, separator c = true → isSpecial c = true)
    {blanks : List Char} (h : ∀ c ∈ blanks, isBlank c = true) : Sealed separator blanks :=
  .of_forall fun c hc => plain_of_isBlank hs (h c hc)

/-- The parts of a text with blanks in front are those of the text, the first with the blanks. -/
theorem parts_blanks_append {separator : Char → Bool}
    (hs : ∀ c, separator c = true → isSpecial c = true) {blanks : List Char}
    (h : ∀ c ∈ blanks, isBlank c = true) {α : Type} {f : List Char → Except DnFlaw α}
    (hf : ∀ p, f (blanks ++ p) = f p) (s : List Char) :
    (parts separator (blanks ++ s) >>= (·.mapM f)) = (parts separator s >>= (·.mapM f)) := by
  rw [parts, parts, splitUnescaped_append (sealed_blanks hs h)]
  cases hcut : splitUnescaped separator s with
  | none => rfl
  | some ps =>
    cases ps with
    | nil => exact absurd rfl (splitUnescaped_ne_nil separator s [] hcut)
    | cons p ps =>
      have hblank : (blanks ++ p).all isBlank = p.all isBlank := by
        rw [List.all_append, List.all_eq_true.mpr h, Bool.true_and]
      have hany : ((blanks ++ p) :: ps).any (·.all isBlank) = (p :: ps).any (·.all isBlank) := by
        rw [List.any_cons, List.any_cons, hblank]
      rw [Option.map_some, prependToFirst]
      dsimp only
      rw [hany]
      cases (p :: ps).any (·.all isBlank) with
      | true => rfl
      | false =>
        show ((blanks ++ p) :: ps).mapM f = (p :: ps).mapM f
        rw [List.mapM_cons, List.mapM_cons, hf]

theorem parseRdn_blanks_append {blanks : List Char} (h : ∀ c ∈ blanks, isBlank c = true)
    (s : List Char) : parseRdn (blanks ++ s) = parseRdn s :=
  parts_blanks_append (fun _ => isSpecial_of_separatesAvas) h (parseAva_blanks_append h) s

theorem parseRdns_blanks_append {blanks : List Char} (h : ∀ c ∈ blanks, isBlank c = true)
    {s : List Char} (hs : s ≠ []) : parseRdns (blanks ++ s) = parseRdns s := by
  have hne : blanks ++ s ≠ [] := List.append_ne_nil_of_right_ne_nil blanks hs
  rw [parseRdns, parseRdns, if_neg (by simpa using hne), if_neg (by simpa using hs)]
  exact parts_blanks_append (fun _ => isSpecial_of_separatesRdns) h (parseRdn_blanks_append h) s

/-! ## Whole names -/

/-- A text that stands for one relative name: it is not blank, no separator cuts it, no backslash at
its end escapes nothing, and it begins no extended name. -/
structure IsPiece (r : String) : Prop where
  notBlank : blank r = false
  isSealed : Sealed separatesRdns r.toList
  notExtended : (trim r.toList).head? ≠ some '<'

theorem isPiece_iff {r : String} : IsPiece r ↔
    blank r = false ∧ Sealed separatesRdns r.toList ∧ (trim r.toList).head? ≠ some '<' := by
  constructor
  · rintro ⟨hb, hs, hx⟩
    exact ⟨hb, hs, hx⟩
  · rintro ⟨hb, hs, hx⟩
    exact ⟨hb, hs, hx⟩

instance (r : String) : Decidable (IsPiece r) := decidable_of_iff' _ isPiece_iff

theorem intercalate_concat (c : Char) (front : List (List Char)) (last : List Char) :
    [c].intercalate (front ++ [last]) = front.flatMap (· ++ [c]) ++ last := by
  induction front with
  | nil => exact List.intercalate_singleton
  | cons p front ih =>
    have hne : front ++ [last] ≠ [] := by simp
    obtain ⟨q, rest, hq⟩ := List.exists_cons_of_ne_nil hne
    rw [List.cons_append, hq, List.intercalate_cons_cons, ← hq, ih, List.flatMap_cons,
      List.append_assoc, List.append_assoc, List.append_assoc]

theorem splitUnescaped_flatMap {separator : Char → Bool} {c : Char} (hb : c ≠ '\\')
    (hc : separator c = true) {front : List (List Char)} (h : ∀ p ∈ front, Sealed separator p)
    (t : List Char) :
    splitUnescaped separator (front.flatMap (· ++ [c]) ++ t) =
      (splitUnescaped separator t).map (front ++ ·) := by
  induction front with
  | nil => cases ht : splitUnescaped separator t <;> simp [ht]
  | cons p front ih =>
    obtain ⟨hp, hfront⟩ := List.forall_mem_cons.mp h
    rw [List.flatMap_cons, List.append_assoc, List.append_assoc, splitUnescaped_append hp,
      List.singleton_append, splitUnescaped_separator hb hc, ih hfront, Option.map_map,
      Option.map_map]
    exact congrArg (Option.map · _) (funext fun ps => by simp [prependToFirst])

theorem Sealed.of_append {separator : Char → Bool} {s t : List Char}
    (h : Sealed separator (s ++ t)) (hs : endsEscaping s = false) : Sealed separator s := by
  generalize hst : s ++ t = u at h
  induction h generalizing s with
  | nil =>
    rw [(List.append_eq_nil_iff.mp hst).1]
    exact .nil
  | escaped c h ih =>
    rcases s with _ | ⟨d, _ | ⟨e, s⟩⟩
    · exact .nil
    · obtain ⟨rfl, -⟩ := List.cons.inj hst
      exact absurd hs (by decide)
    · rw [List.cons_append, List.cons_append] at hst
      obtain ⟨rfl, htail⟩ := List.cons.inj hst
      obtain ⟨rfl, hrest⟩ := List.cons.inj htail
      rw [endsEscaping_escaped] at hs
      exact .escaped e (ih hs hrest)
  | plain hb hc h ih =>
    cases s with
    | nil => exact .nil
    | cons d s =>
      obtain ⟨rfl, hrest⟩ := List.cons.inj hst
      rw [endsEscaping_cons hb] at hs
      exact .plain hb hc (ih hs hrest)

theorem parseRdns_trim {s : List Char} (h : s.all isBlank = false) :
    parseRdns (trim s) = parseRdns (dropEndWhile isBlank s) := by
  obtain ⟨blanks, hblanks, hs⟩ := exists_blanks_append_trimStart s
  have hne : trim s ≠ [] := by
    intro hnil
    rw [trim_eq_nil_iff.mp hnil] at h
    cases h
  have hdrop : dropEndWhile isBlank s = blanks ++ trim s := by
    rw [hs, dropEndWhile_append_of_ne_nil hne, ← hs]
    rfl
  rw [hdrop, parseRdns_blanks_append hblanks hne]

section
variable {front : List String} {last : String} {l : List Rdn}

theorem parseRdns_eq_ok_iff (hfront : ∀ r ∈ front, IsPiece r) (hlast : IsPiece last) :
    parseRdns ((front.map String.toList).flatMap (· ++ [',']) ++
        dropEndWhile isBlank last.toList) = .ok l ↔
      ∃ as a, front.mapM (parseRdn ·.toList) = .ok as ∧ parseLastRdn last.toList = .ok a ∧
        l = as ++ [a] := by
  have hne : (front.map String.toList).flatMap (· ++ [',']) ++ dropEndWhile isBlank last.toList
      ≠ [] :=
    List.append_ne_nil_of_right_ne_nil _ (dropEndWhile_ne_nil hlast.notBlank)
  have hsealed : ∀ p ∈ front.map String.toList, Sealed separatesRdns p :=
    List.forall_mem_map.mpr fun r hr => (hfront r hr).isSealed
  rw [parseRdns, if_neg (by simpa using hne), parts, splitUnescaped_flatMap (by decide) rfl hsealed]
  cases hescape : endsEscaping (dropEndWhile isBlank last.toList) with
  | true =>
    have hlasterror : parseLastRdn last.toList = .error .trailingBackslash := by
      rw [parseLastRdn, if_pos hescape]
    rw [(splitUnescaped_eq_none_iff _ _).mpr hescape, hlasterror]
    constructor
    · intro h
      cases h
    · rintro ⟨as, a, -, ha, -⟩
      cases ha
  | false =>
    have hlastsealed : Sealed separatesRdns (dropEndWhile isBlank last.toList) := by
      obtain ⟨blanks, -, hblanks⟩ := exists_dropEndWhile_append_blanks last.toList
      have hwhole := hlast.isSealed
      rw [hblanks] at hwhole
      exact hwhole.of_append hescape
    have hany : (front.map String.toList ++ [dropEndWhile isBlank last.toList]).any
        (·.all isBlank) = false := by
      rw [List.any_eq_false]
      intro p hp
      rw [Bool.not_eq_true]
      rcases List.mem_append.mp hp with hp | hp
      · obtain ⟨r, hr, rfl⟩ := List.mem_map.mp hp
        exact (hfront r hr).notBlank
      · rw [List.mem_singleton.mp hp]
        exact all_isBlank_dropEndWhile hlast.notBlank
    have hlastread : parseLastRdn last.toList = parseRdn (dropEndWhile isBlank last.toList) := by
      rw [parseLastRdn, if_neg (Bool.eq_false_iff.mp hescape)]
    rw [splitUnescaped_of_sealed hlastsealed, Option.map_some, hlastread]
    dsimp only
    rw [hany, if_neg Bool.false_ne_true]
    show (front.map String.toList ++ [_]).mapM parseRdn = _ ↔ _
    rw [mapM_concat_eq_ok_iff, List.mapM_map]
    rfl

/-- A name is read as its relative names one by one, the last as at the end. -/
theorem exists_parse_intercalate_iff (hfront : ∀ r ∈ front, IsPiece r) (hlast : IsPiece last) :
    (∃ d, Dn.parse (",".intercalate (front ++ [last])) = .ok d ∧ d.rdns = l) ↔
      ∃ as a, front.mapM (parseRdn ·.toList) = .ok as ∧ parseLastRdn last.toList = .ok a ∧
        l = as ++ [a] := by
  have htext : (",".intercalate (front ++ [last])).toList =
      (front.map String.toList).flatMap (· ++ [',']) ++ last.toList := by
    rw [String.toList_intercalate, List.map_append]
    exact intercalate_concat ',' _ last.toList
  have hblank : ((front.map String.toList).flatMap (· ++ [',']) ++ last.toList).all isBlank =
      false := by
    rw [List.all_append]
    exact Bool.and_eq_false_imp.mpr fun _ => hlast.notBlank
  have hhead : (trim (",".intercalate (front ++ [last])).toList).head? ≠ some '<' := by
    rw [htext]
    cases front with
    | nil => exact hlast.notExtended
    | cons r front =>
      have hr := hfront r List.mem_cons_self
      rw [List.map_cons, List.flatMap_cons, List.append_assoc, List.append_assoc,
        head?_trim_append hr.notBlank]
      exact hr.notExtended
  have hread : parseRdns (trim (",".intercalate (front ++ [last])).toList) =
      parseRdns ((front.map String.toList).flatMap (· ++ [',']) ++
        dropEndWhile isBlank last.toList) := by
    rw [htext, parseRdns_trim hblank,
      dropEndWhile_append_of_ne_nil (dropEndWhile_ne_nil hlast.notBlank)]
  rw [← parseRdns_eq_ok_iff hfront hlast, ← hread, Dn.parse, Dn.Form.parse, if_neg hhead]
  cases parseRdns (trim (",".intercalate (front ++ [last])).toList) with
  | error e =>
    constructor
    · rintro ⟨d, hd, -⟩
      cases hd
    · intro h
      cases h
  | ok rdns =>
    constructor
    · rintro ⟨d, hd, rfl⟩
      obtain rfl := Except.ok.inj hd
      rfl
    · intro h
      obtain rfl := Except.ok.inj h
      exact ⟨_, rfl, rfl⟩

theorem parse_eq_ok_iff (hlast : IsPiece last) :
    (∃ d, Dn.parse last = .ok d ∧ d.rdns = l) ↔
      ∃ a, parseLastRdn last.toList = .ok a ∧ l = [a] := by
  have h := exists_parse_intercalate_iff (l := l) (List.forall_mem_nil _) hlast
  rw [List.nil_append, show ",".intercalate [last] = last by
    apply String.toList_injective
    rw [String.toList_intercalate]
    exact List.intercalate_singleton] at h
  rw [h]
  constructor
  · rintro ⟨as, a, has, ha, rfl⟩
    cases has
    exact ⟨a, ha, rfl⟩
  · rintro ⟨a, ha, rfl⟩
    exact ⟨[], a, rfl, ha, rfl⟩

end

/-! ## Places -/

/-- Relative names that are read in a name exactly if each of them is read alone, and as what is read
then. -/
def PlaceFree (rs : List String) : Prop :=
  ((∃ d, Dn.parse (",".intercalate rs) = .ok d) ↔ ∀ r ∈ rs, ∃ d, Dn.parse r = .ok d) ∧
    ∀ d ds, Dn.parse (",".intercalate rs) = .ok d → rs.mapM Dn.parse = .ok ds →
      d.rdns = ds.flatMap Dn.rdns

/-- Names that are read alone are read as at the end. -/
theorem flatMap_rdns_of_mapM {rs : List String} {ds : List Dn} (hrs : ∀ r ∈ rs, IsPiece r)
    (h : rs.mapM Dn.parse = .ok ds) :
    rs.mapM (parseLastRdn ·.toList) = .ok (ds.flatMap Dn.rdns) := by
  induction mapM_eq_ok_iff.mp h with
  | nil => rfl
  | @cons r d rs ds hr hds ih =>
    obtain ⟨hpiece, hrest⟩ := List.forall_mem_cons.mp hrs
    obtain ⟨a, ha, hd⟩ := (parse_eq_ok_iff hpiece).mp ⟨d, hr, rfl⟩
    rw [List.mapM_cons, ha, ih hrest (mapM_eq_ok_iff.mpr hds), List.flatMap_cons, hd]
    rfl

theorem not_frayed_of_mapM {front : List String} {as : List Rdn}
    (h : front.mapM (parseRdn ·.toList) = .ok as)
    (hlast : front.mapM (parseLastRdn ·.toList) = .ok as) : ∀ r ∈ front, ¬ Frayed r.toList := by
  induction mapM_eq_ok_iff.mp h with
  | nil => exact List.forall_mem_nil _
  | @cons r a front as ha has ih =>
    obtain ⟨hr, hfront⟩ := List.forall₂_cons.mp (mapM_eq_ok_iff.mp hlast)
    obtain ⟨b, hb, hsame⟩ := parseRdn_of_parseLastRdn hr
    have hba : b = a := Except.ok.inj (hb.symm.trans ha)
    exact List.forall_mem_cons.mpr
      ⟨hsame.mp hba, ih (mapM_eq_ok_iff.mpr has) (mapM_eq_ok_iff.mpr hfront)⟩

theorem mapM_parseLastRdn {front : List String} {as : List Rdn}
    (h : front.mapM (parseRdn ·.toList) = .ok as) (hfrayed : ∀ r ∈ front, ¬ Frayed r.toList) :
    front.mapM (parseLastRdn ·.toList) = .ok as := by
  induction mapM_eq_ok_iff.mp h with
  | nil => rfl
  | @cons r a front as ha has ih =>
    obtain ⟨hr, hfront⟩ := List.forall_mem_cons.mp hfrayed
    rw [List.mapM_cons, parseLastRdn_of_parseRdn ha hr, ih (mapM_eq_ok_iff.mpr has) hfront]
    rfl

/-- **Relative names are read alike in a name and alone** exactly if no frayed one stands in front of
others in a name that is read.  What is read alone is always read in a name. -/
theorem placeFree_iff {rs : List String} (hne : rs ≠ []) (hrs : ∀ r ∈ rs, IsPiece r) :
    ((∀ r ∈ rs, ∃ d, Dn.parse r = .ok d) → ∃ d, Dn.parse (",".intercalate rs) = .ok d) ∧
      (PlaceFree rs ↔ ((∃ d, Dn.parse (",".intercalate rs) = .ok d) →
        ∀ r ∈ rs.dropLast, ¬ Frayed r.toList)) := by
  obtain ⟨front, last, rfl⟩ := (List.eq_nil_or_concat' rs).resolve_left hne
  have hfront : ∀ r ∈ front, IsPiece r := fun r hr => hrs r (List.mem_append_left _ hr)
  have hlast : IsPiece last := hrs last (List.mem_append_right _ (List.mem_singleton_self last))
  -- what is read alone is read at the end, and so in front of others too
  have hwhole : (∀ r ∈ front ++ [last], ∃ d, Dn.parse r = .ok d) →
      ∃ d, Dn.parse (",".intercalate (front ++ [last])) = .ok d := by
    intro hall
    obtain ⟨ds, hds⟩ := exists_mapM_eq_ok hall
    obtain ⟨as, a, has, ha, -⟩ := mapM_concat_eq_ok_iff.mp (flatMap_rdns_of_mapM hrs hds)
    obtain ⟨bs, hbs⟩ := exists_mapM_eq_ok fun r hr => by
      obtain ⟨d, hd⟩ := hall r (List.mem_append_left _ hr)
      obtain ⟨a, ha, -⟩ := (parse_eq_ok_iff (hfront r hr)).mp ⟨d, hd, rfl⟩
      obtain ⟨b, hb, -⟩ := parseRdn_of_parseLastRdn ha
      exact ⟨b, hb⟩
    obtain ⟨d, hd, -⟩ := (exists_parse_intercalate_iff hfront hlast).mpr ⟨bs, a, hbs, ha, rfl⟩
    exact ⟨d, hd⟩
  refine ⟨hwhole, ?_⟩
  rw [List.dropLast_concat]
  constructor
  · rintro ⟨hread, hsame⟩ ⟨d, hd⟩
    obtain ⟨ds, hds⟩ := exists_mapM_eq_ok (hread.mp ⟨d, hd⟩)
    obtain ⟨as, a, has, -, hrdns⟩ := (exists_parse_intercalate_iff hfront hlast).mp ⟨d, hd, rfl⟩
    have halone := flatMap_rdns_of_mapM hrs hds
    rw [← hsame d ds hd hds, hrdns] at halone
    obtain ⟨bs, b, hbs, -, hbb⟩ := mapM_concat_eq_ok_iff.mp halone
    obtain ⟨rfl, -⟩ := List.append_inj' hbb rfl
    exact not_frayed_of_mapM has hbs
  · intro hfrayed
    -- if the name is read, its relative names are read alone, and as the same
    have hparts {d : Dn} (hd : Dn.parse (",".intercalate (front ++ [last])) = .ok d) :
        (front ++ [last]).mapM (parseLastRdn ·.toList) = .ok d.rdns := by
      obtain ⟨as, a, has, ha, hrdns⟩ :=
        (exists_parse_intercalate_iff hfront hlast).mp ⟨d, hd, rfl⟩
      have hsame := mapM_parseLastRdn has (hfrayed ⟨d, hd⟩)
      exact mapM_concat_eq_ok_iff.mpr ⟨as, a, hsame, ha, hrdns⟩
    refine ⟨⟨?_, hwhole⟩, ?_⟩
    · rintro ⟨d, hd⟩ r hr
      obtain ⟨a, ha⟩ := exists_of_mem_mapM (hparts hd) r hr
      obtain ⟨e, he, -⟩ := (parse_eq_ok_iff (hrs r hr)).mpr ⟨a, ha, rfl⟩
      exact ⟨e, he⟩
    · intro d ds hd hds
      exact Except.ok.inj ((hparts hd).symm.trans (flatMap_rdns_of_mapM hrs hds))

theorem placeFree_escaped_comma :
    (["ou=a\\,b ", "cn=x\\20", "dc=com\t"] ≠ [] ∧
      ∀ r ∈ ["ou=a\\,b ", "cn=x\\20", "dc=com\t"], IsPiece r) ∧
    PlaceFree ["ou=a\\,b ", "cn=x\\20", "dc=com\t"] := by
  have hpieces : ∀ r ∈ ["ou=a\\,b ", "cn=x\\20", "dc=com\t"], IsPiece r := by decide
  refine ⟨⟨by decide, hpieces⟩, (placeFree_iff (by decide) hpieces).2.mpr fun _ => ?_⟩
  decide

/-- An escaped space at the end of a relative name is read in front of others only. -/
theorem trailing_space_misread : ¬ ∀ rs : List String, rs ≠ [] → (∀ r ∈ rs, IsPiece r) →
    PlaceFree rs := by
  intro hall
  have hjoined : ∃ d, Dn.parse (",".intercalate ["cn=space\\ ", "dc=com"]) = .ok d :=
    ⟨⟨"cn=space\\ ,dc=com", .plain [[⟨"cn", "space "⟩], [⟨"dc", "com"⟩]]⟩, by decide⟩
  have halone : Dn.parse "cn=space\\ " = .error (.invalid "cn=space\\ " .trailingBackslash) := by
    decide
  obtain ⟨hread, -⟩ := hall ["cn=space\\ ", "dc=com"] (by decide) (by decide)
  obtain ⟨d, hd⟩ := hread.mp hjoined "cn=space\\ " List.mem_cons_self
  rw [halone] at hd
  cases hd

end DirectoryClient
