import DirectoryClient.Proofs.Dn.Writing

/-!
# How written texts end

A backslash at the end of a text escapes whatever comes next.  If there is none, blanks that are put
behind the text change nothing but the end of its last value.

* `endsEscaping_append`            where an end is looked at, a text that ends in no such backslash
                                   may be left out;
* `splitUnescaped_eq_none_iff`, `unescapeBytes_eq_none_iff`   cutting and reading fail exactly on the
                                   others;
* `exists_lastPart`                what is put behind a text comes into its last part;
* `unescapeValue_append_blanks`    a value with blanks behind it.
-/

namespace DirectoryClient

open DirectoryClient.Text

/-! ## Backslashes at the end -/

theorem endsEscaping_concat (s : List Char) (c : Char) :
    endsEscaping (s ++ [c]) = (c == '\\' && !endsEscaping s) := by
  unfold endsEscaping
  rw [List.reverse_concat, List.takeWhile_cons]
  cases hc : c == '\\' with
  | false => rfl
  | true =>
    generalize hn : (s.reverse.takeWhile (· == '\\')).length = n
    have hlen : ((c :: s.reverse.takeWhile (· == '\\')).length) = n + 1 := by
      rw [List.length_cons, hn]
    rw [if_pos rfl, hlen, Bool.true_and, Bool.eq_iff_iff, Bool.not_eq_true', beq_iff_eq,
      beq_eq_false_iff_ne]
    omega

theorem endsEscaping_append {s : List Char} (h : endsEscaping s = false) (t : List Char) :
    endsEscaping (s ++ t) = endsEscaping t := by
  induction t using List.reverseRecOn with
  | nil => rw [List.append_nil, h]; rfl
  | append_singleton t c ih =>
    rw [← List.append_assoc, endsEscaping_concat, endsEscaping_concat, ih]

theorem endsEscaping_cons {c : Char} (h : c ≠ '\\') (s : List Char) :
    endsEscaping (c :: s) = endsEscaping s := by
  have hc : endsEscaping [c] = false := by
    have hconcat := endsEscaping_concat [] c
    rw [beq_eq_false_iff_ne.mpr h] at hconcat
    exact hconcat
  exact endsEscaping_append hc s

theorem endsEscaping_escaped (c : Char) (s : List Char) :
    endsEscaping ('\\' :: c :: s) = endsEscaping s := by
  have hc : endsEscaping ['\\', c] = false := by
    have hconcat := endsEscaping_concat ['\\'] c
    rw [show endsEscaping ['\\'] = true from rfl, Bool.not_true, Bool.and_false] at hconcat
    exact hconcat
  exact endsEscaping_append hc s

theorem endsEscaping_of_forall {s : List Char} (h : ∀ c ∈ s, c ≠ '\\') :
    endsEscaping s = false := by
  induction s with
  | nil => rfl
  | cons c s ih =>
    obtain ⟨hc, hs⟩ := List.forall_mem_cons.mp h
    rw [endsEscaping_cons hc, ih hs]

theorem ne_backslash_of_isBlank {c : Char} (h : isBlank c = true) : c ≠ '\\' := by
  rintro rfl
  exact absurd h (by decide)

theorem endsEscaping_blanks {s : List Char} (h : ∀ c ∈ s, isBlank c = true) :
    endsEscaping s = false :=
  endsEscaping_of_forall fun c hc => ne_backslash_of_isBlank (h c hc)

/-- What stands in front of an equals sign does not matter at the end. -/
theorem endsEscaping_equals (s t : List Char) :
    endsEscaping (s ++ '=' :: t) = endsEscaping t := by
  have hs : endsEscaping (s ++ ['=']) = false := by
    rw [endsEscaping_concat]
    rfl
  rw [List.append_cons, endsEscaping_append hs]

/-! ## Cutting -/

theorem splitUnescaped_eq_none_iff (separator : Char → Bool) (s : List Char) :
    splitUnescaped separator s = none ↔ endsEscaping s = true := by
  fun_induction splitUnescaped separator s with
  | case1 => exact iff_of_false (Option.some_ne_none _) (by decide)
  | case2 => exact iff_of_true rfl rfl
  | case3 c s ih => rw [Option.map_eq_none_iff, ih, endsEscaping_escaped]
  | case4 c s hnil hcons hsep ih =>
    rw [Option.map_eq_none_iff, ih, endsEscaping_cons (ne_backslash hnil hcons)]
  | case5 c s hnil hcons hsep ih =>
    rw [Option.map_eq_none_iff, ih, endsEscaping_cons (ne_backslash hnil hcons)]

theorem endsEscaping_of_sealed {separator : Char → Bool} {s : List Char}
    (h : Sealed separator s) : endsEscaping s = false := by
  have hcut := splitUnescaped_of_sealed h
  apply Bool.eq_false_iff.mpr
  intro hs
  rw [(splitUnescaped_eq_none_iff separator s).mpr hs] at hcut
  cases hcut

/-- The parts of a text: what is put behind the text comes into the last one, if nothing of it
separates or escapes. -/
structure LastPart (separator : Char → Bool) (s : List Char) (front : List (List Char))
    (last : List Char) : Prop where
  ends : last <:+ s
  whole : front = [] → last = s
  behind : ∀ t, (∀ c ∈ t, c ≠ '\\' ∧ separator c = false) →
    splitUnescaped separator (s ++ t) = some (front ++ [last ++ t])

namespace LastPart

variable {separator : Char → Bool} {s last : List Char} {front : List (List Char)}

theorem cut (h : LastPart separator s front last) :
    splitUnescaped separator s = some (front ++ [last]) := by
  have hnil := h.behind [] (List.forall_mem_nil _)
  rwa [List.append_nil, List.append_nil] at hnil

theorem separated {c : Char} (hb : c ≠ '\\') (hc : separator c = true)
    (h : LastPart separator s front last) : LastPart separator (c :: s) ([] :: front) last where
  ends := h.ends.trans (List.suffix_cons c s)
  whole h := absurd h (List.cons_ne_nil _ _)
  behind t ht := by
    rw [List.cons_append, splitUnescaped_separator hb hc, h.behind t ht]
    rfl

theorem sealed {cs : List Char} (hcs : Sealed separator cs)
    (h : LastPart separator s front last) :
    ∃ front last, LastPart separator (cs ++ s) front last := by
  have hcut (t : List Char) (ht : ∀ c ∈ t, c ≠ '\\' ∧ separator c = false) :
      splitUnescaped separator (cs ++ s ++ t) =
        some (prependToFirst cs (front ++ [last ++ t])) := by
    rw [List.append_assoc, splitUnescaped_append hcs, h.behind t ht, Option.map_some]
  cases hf : front with
  | nil =>
    obtain rfl : last = s := h.whole hf
    refine ⟨[], cs ++ last, List.suffix_refl _, fun _ => rfl, fun t ht => ?_⟩
    rw [hcut t ht, hf, List.append_assoc]
    rfl
  | cons p front =>
    refine ⟨(cs ++ p) :: front, last, h.ends.trans (List.suffix_append cs s),
      fun h => absurd h (List.cons_ne_nil _ _), fun t ht => ?_⟩
    rw [hcut t ht, hf]
    rfl

end LastPart

theorem exists_lastPart (separator : Char → Bool) {s : List Char} (h : endsEscaping s = false) :
    ∃ front last, LastPart separator s front last := by
  fun_induction splitUnescaped separator s with
  | case1 =>
    refine ⟨[], [], List.suffix_refl _, fun _ => rfl, fun t ht => ?_⟩
    exact splitUnescaped_of_sealed (.of_forall ht)
  | case2 => exact absurd h (by decide)
  | case3 c s ih =>
    rw [endsEscaping_escaped] at h
    obtain ⟨front, last, hlast⟩ := ih h
    exact hlast.sealed (.escaped c .nil)
  | case4 c s hnil hcons hsep ih =>
    have hc := ne_backslash hnil hcons
    rw [endsEscaping_cons hc] at h
    obtain ⟨front, last, hlast⟩ := ih h
    exact ⟨_, _, hlast.separated hc hsep⟩
  | case5 c s hnil hcons hsep ih =>
    have hc := ne_backslash hnil hcons
    rw [endsEscaping_cons hc] at h
    obtain ⟨front, last, hlast⟩ := ih h
    exact hlast.sealed (.plain hc (Bool.eq_false_iff.mpr hsep) .nil)

/-! ## Reading bytes -/

theorem ne_backslash_of_read {c : Char} {s : List Char} (hnil : c = '\\' → s = [] → False)
    (hone : ∀ d, c = '\\' → s = [d] → False)
    (hcons : ∀ d e t, c = '\\' → s = d :: e :: t → False) : c ≠ '\\' := by
  intro hc
  rcases s with _ | ⟨d, _ | ⟨e, t⟩⟩
  · exact hnil hc rfl
  · exact hone d hc rfl
  · exact hcons d e t hc rfl

theorem unescapeBytes_eq_none_iff (s : List Char) :
    unescapeBytes s = none ↔ endsEscaping s = true := by
  fun_induction unescapeBytes s with
  | case1 => exact iff_of_false (Option.some_ne_none _) (by decide)
  | case2 => exact iff_of_true rfl rfl
  | case3 c =>
    rw [endsEscaping_escaped]
    exact iff_of_false (Option.some_ne_none _) (by decide)
  | case4 h l s b hb ih =>
    have hl : l ≠ '\\' := by
      rintro rfl
      have hnone : hexPair h '\\' = none := by
        rw [hexPair, show hexValue '\\' = none by decide]
        cases hexValue h <;> rfl
      rw [hnone] at hb
      cases hb
    rw [Option.map_eq_none_iff, ih, endsEscaping_escaped, endsEscaping_cons hl]
  | case5 h l s hb ih => rw [Option.map_eq_none_iff, ih, endsEscaping_escaped]
  | case6 c s hnil hone hcons ih =>
    have hc := ne_backslash_of_read hnil hone hcons
    rw [Option.map_eq_none_iff, ih, endsEscaping_cons hc]

/-- No blank is a digit. -/
theorem hexValue_of_isBlank {c : Char} (h : isBlank c = true) : hexValue c = none := by
  have hle (d e : Char) : d ≤ e ↔ d.toNat ≤ e.toNat := UInt32.le_iff_toNat_le
  simp only [isBlank, inRanges, blankRanges, List.any_cons, List.any_nil, Bool.or_eq_true,
    Bool.and_eq_true, decide_eq_true_eq, Bool.or_false] at h
  have h0 : ('0' : Char).toNat = 48 := rfl
  have h9 : ('9' : Char).toNat = 57 := rfl
  have ha : ('a' : Char).toNat = 97 := rfl
  have hf : ('f' : Char).toNat = 102 := rfl
  have hA : ('A' : Char).toNat = 65 := rfl
  have hF : ('F' : Char).toNat = 70 := rfl
  simp only [hexValue, hle]
  rw [if_neg (by omega), if_neg (by omega), if_neg (by omega)]

theorem unescapeBytes_blanks {s : List Char} (h : ∀ c ∈ s, isBlank c = true) :
    unescapeBytes s = some (Utf8.encode s) := by
  induction s with
  | nil => rfl
  | cons c s ih =>
    obtain ⟨hc, hs⟩ := List.forall_mem_cons.mp h
    rw [unescapeBytes_cons (ne_backslash_of_isBlank hc), ih hs]
    rfl

/-- Behind a text that is read, reading starts anew, unless a digit follows. -/
theorem unescapeBytes_append {s t : List Char} {bytes : List UInt8}
    (h : unescapeBytes s = some bytes) (ht : ∀ c ∈ t.head?, hexValue c = none) :
    unescapeBytes (s ++ t) = (unescapeBytes t).map (bytes ++ ·) := by
  fun_induction unescapeBytes s generalizing bytes with
  | case1 =>
    obtain rfl := Option.some.inj h
    cases ht : unescapeBytes t <;> simp [ht]
  | case2 => cases h
  | case3 c =>
    obtain rfl := Option.some.inj h
    cases t with
    | nil => simp [unescapeBytes]
    | cons d t =>
      have hp : hexPair c d = none := by
        rw [hexPair, ht d rfl]
        cases hexValue c <;> rfl
      rw [List.cons_append, List.cons_append, List.nil_append, unescapeBytes, hp]
  | case4 h l s b hb ih =>
    obtain ⟨rest, hrest, rfl⟩ := Option.map_eq_some_iff.mp h
    rw [List.cons_append, List.cons_append, List.cons_append, unescapeBytes, hb]
    dsimp only
    rw [ih hrest, Option.map_map]
    rfl
  | case5 h l s hb ih =>
    obtain ⟨rest, hrest, rfl⟩ := Option.map_eq_some_iff.mp h
    rw [List.cons_append, List.cons_append, List.cons_append, unescapeBytes, hb]
    dsimp only
    rw [← List.cons_append, ih hrest, Option.map_map]
    exact congrArg (Option.map · _) (funext fun _ => (List.append_assoc _ _ _).symm)
  | case6 c s hnil hone hcons ih =>
    obtain ⟨rest, hrest, rfl⟩ := Option.map_eq_some_iff.mp h
    have hc := ne_backslash_of_read hnil hone hcons
    rw [List.cons_append, unescapeBytes_cons hc, ih hrest, Option.map_map]
    exact congrArg (Option.map · _) (funext fun _ => (List.append_assoc _ _ _).symm)

/-! ## Values with blanks behind them -/

theorem unescapeValue_eq_ok_iff {s : List Char} {value : String} :
    unescapeValue s = .ok value ↔
      ∃ bytes, unescapeBytes (trimValue s) = some bytes ∧
        Utf8.decode bytes = .ok value.toList := by
  unfold unescapeValue
  constructor
  · intro h
    cases hb : unescapeBytes (trimValue s) with
    | none => rw [hb] at h; cases h
    | some bytes =>
      rw [hb] at h
      dsimp only at h
      cases hd : Utf8.decode bytes with
      | error e => rw [hd] at h; cases h
      | ok v =>
        rw [hd] at h
        obtain rfl := Except.ok.inj h
        exact ⟨bytes, rfl, by rw [String.toList_ofList]; exact hd⟩
  · rintro ⟨bytes, hb, hd⟩
    rw [hb]
    dsimp only
    rw [hd]
    exact congrArg Except.ok String.ofList_toList

section
variable {v blanks : List Char} (hescape : endsEscaping v = false)
  (hlast : ∀ c ∈ v.getLast?, isBlank c = false) (hblanks : ∀ c ∈ blanks, isBlank c = true)

include hlast in
theorem trimStart_ne_nil (hne : v ≠ []) : trimStart v ≠ [] := by
  intro hnil
  have hall := List.dropWhile_eq_nil_iff.mp hnil
  have hblank := hall _ (List.getLast_mem hne)
  rw [hlast _ (List.getLast?_eq_some_getLast hne)] at hblank
  cases hblank

include hlast in
theorem trimStart_append (hne : v ≠ []) (t : List Char) :
    trimStart (v ++ t) = trimStart v ++ t := by
  rw [trimStart, List.dropWhile_append, if_neg, trimStart]
  exact fun hempty => trimStart_ne_nil hlast hne (List.isEmpty_iff.mp hempty)

include hblanks in
theorem trim_blanks : trim blanks = [] :=
  trim_eq_nil_iff.mpr (List.all_eq_true.mpr hblanks)

include hlast hblanks in
/-- Trimming leaves nothing of blanks behind a value. -/
theorem trim_append_blanks : trim (v ++ blanks) = trimStart v := by
  by_cases hne : v = []
  · rw [hne, List.nil_append, trim_blanks hblanks]
    rfl
  · have hstart : ∀ c ∈ (trimStart v).getLast?, isBlank c = false :=
      fun c hc => hlast c (getLast?_dropWhile c hc)
    have hdrop : dropEndWhile isBlank blanks = [] := List.rdropWhile_eq_nil_iff.mpr hblanks
    rw [trim, trimStart_append hlast hne, dropEndWhile_append hstart, hdrop, List.append_nil]

include hescape in
theorem endsEscaping_trimStart : endsEscaping (trimStart v) = false := by
  obtain ⟨front, hfront, hv⟩ := exists_blanks_append_trimStart v
  rw [hv, endsEscaping_append (endsEscaping_blanks hfront)] at hescape
  exact hescape

include hescape hlast hblanks in
/-- Reading a value leaves of blanks behind it what stands in front of spaces. -/
theorem trimValue_append_blanks (hne : v ≠ []) :
    trimValue (v ++ blanks) = trimStart v ++ dropEndWhile (· == ' ') blanks := by
  have hstart : ∀ c ∈ (trimStart v).getLast?, (c == ' ') = false := by
    intro c hc
    refine beq_eq_false_iff_ne.mpr ?_
    rintro rfl
    exact absurd (hlast ' ' (getLast?_dropWhile ' ' hc)) (by decide)
  have hkept : ∀ c ∈ dropEndWhile (· == ' ') blanks, isBlank c = true := fun c hc =>
    hblanks c ((List.rdropWhile_prefix (· == ' ') blanks).subset hc)
  have hend : endsEscaping (trimStart v ++ dropEndWhile (· == ' ') blanks) = false := by
    rw [endsEscaping_append (endsEscaping_trimStart hescape), endsEscaping_blanks hkept]
  simp [trimValue, trimStart_append hlast hne, dropEndWhile_append hstart, hend]

include hescape hlast in
theorem trimValue_eq_trimStart : trimValue v = trimStart v := by
  by_cases hne : v = []
  · rw [hne]
    rfl
  · have h := trimValue_append_blanks hescape hlast (List.forall_mem_nil _) hne
    rw [List.append_nil] at h
    rw [h]
    exact List.append_nil _

include hescape hlast hblanks in
/-- A value with blanks behind it is read if the value is, and as the same one exactly if reading
takes away what trimming does. -/
theorem unescapeValue_append_blanks {value : String} (h : unescapeValue v = .ok value) :
    ∃ value', unescapeValue (v ++ blanks) = .ok value' ∧
      (value' = value ↔ trimValue (v ++ blanks) = trim (v ++ blanks)) := by
  have htrim := trim_append_blanks hlast hblanks
  by_cases hne : v = []
  · have hstart : trimStart blanks = [] := List.dropWhile_eq_nil_iff.mpr hblanks
    have hvalue : trimValue blanks = [] := by
      rw [trimValue, hstart]
      rfl
    refine ⟨value, ?_, iff_of_true rfl ?_⟩
    · rw [hne] at h ⊢
      rw [unescapeValue, List.nil_append, hvalue]
      exact h
    · rw [htrim, hne, List.nil_append, hvalue]
      rfl
  · obtain ⟨bytes, hbytes, hdecode⟩ := unescapeValue_eq_ok_iff.mp h
    rw [trimValue_eq_trimStart hescape hlast] at hbytes
    have hvalue := trimValue_append_blanks hescape hlast hblanks hne
    generalize hz : dropEndWhile (· == ' ') blanks = z at hvalue
    have hkept : ∀ c ∈ z, isBlank c = true := by
      intro c hc
      rw [← hz] at hc
      exact hblanks c ((List.rdropWhile_prefix (· == ' ') blanks).subset hc)
    have hread : unescapeBytes (trimValue (v ++ blanks)) = some (bytes ++ Utf8.encode z) := by
      have hdigit : ∀ c ∈ z.head?, hexValue c = none :=
        fun c hc => hexValue_of_isBlank (hkept c (List.mem_of_mem_head? hc))
      rw [hvalue, unescapeBytes_append hbytes hdigit, unescapeBytes_blanks hkept]
      rfl
    refine ⟨String.ofList (value.toList ++ z), unescapeValue_eq_ok_iff.mpr ⟨_, hread, ?_⟩, ?_⟩
    · rw [String.toList_ofList]
      exact Utf8.decode_append_encode hdecode z
    · rw [hvalue, htrim, ← String.toList_inj, String.toList_ofList]
      exact List.append_right_eq_self.trans List.append_right_eq_self.symm

end

end DirectoryClient
