import DirectoryClient.Address.Six
import DirectoryClient.Proofs.Text.Lower
import DirectoryClient.Proofs.Text.Parts

/-!
# Which texts are addresses

* `isAddressChar`             digits, colons and points: addresses have no other characters;
* `IPv4.parse_asciiLower`, `IPv6.parse_asciiLower`       letter case does not matter;
* `IPv4.parse_append_point`, `IPv6.parse_append_point`   no address ends with a point;
* `IPv6.parse_mapped`         a four-byte address in the place of the last two pieces;
* `IPv6.isAddressChar_of_mem_text`, `IPv6.colon_mem_text`   what addresses are written in.
-/

namespace DirectoryClient

open DirectoryClient.Text

/-! ## Characters -/

def isAddressChar (c : Char) : Bool := isHex c || c == ':' || c == '.'

theorem isAddressChar_of_isHex {c : Char} (h : isHex c = true) : isAddressChar c = true := by
  rw [isAddressChar, h]
  rfl

theorem isHex_of_isDigit {c : Char} (h : c.isDigit = true) : isHex c = true := by
  have hc : '0' ≤ c ∧ c ≤ '9' := by
    simpa [Char.isDigit, Char.le_def] using h
  rw [isHex, hexValue, if_pos hc]
  rfl

theorem isHex_of_mem_hexNumber {n : Nat} {c : Char} (h : c ∈ hexNumber n) : isHex c = true := by
  have hdigit {n : Nat} (hn : n < 16) : isHex (hexDigit n) = true := by
    rw [isHex, hexValue_hexDigit ⟨n, hn⟩]
    rfl
  induction n using hexNumber.induct with
  | case1 n hn =>
    rw [hexNumber, if_pos hn, List.mem_singleton] at h
    exact h ▸ hdigit hn
  | case2 n hn ih =>
    rw [hexNumber, if_neg hn] at h
    rcases List.mem_append.mp h with h | h
    · exact ih h
    · rw [List.mem_singleton.mp h]
      exact hdigit (Nat.mod_lt _ (by decide))

theorem hexValue_toLower (c : Char) : hexValue c.toLower = hexValue c :=
  apply_toLower (by decide) c

theorem isDigit_toLower (c : Char) : c.toLower.isDigit = c.isDigit :=
  apply_toLower (by decide) c

theorem colon_toLower (c : Char) : (c.toLower == ':') = (c == ':') :=
  apply_toLower (f := (· == ':')) (by decide) c

theorem point_toLower (c : Char) : (c.toLower == '.') = (c == '.') :=
  apply_toLower (f := (· == '.')) (by decide) c

theorem asciiLower_of_digits {s : List Char} (h : ∀ c ∈ s, c.isDigit = true) : asciiLower s = s := by
  have hletter : ∀ n : Fin 26, (Char.ofNat (65 + n)).isDigit = false := by decide
  have hsame : ∀ c ∈ s, c.toLower = id c := by
    intro c hc
    rcases toLower_cases c with hlower | ⟨n, rfl, -⟩
    · exact hlower
    · exact absurd (h _ hc) (hletter n ▸ Bool.false_ne_true)
  rw [asciiLower, List.map_congr_left hsame, List.map_id]

theorem isAddressChar_toLower (c : Char) : isAddressChar c.toLower = isAddressChar c := by
  rw [isAddressChar, isHex, hexValue_toLower, colon_toLower, point_toLower, isAddressChar, isHex]

theorem toNat_lt_of_isAddressChar {c : Char} (h : isAddressChar c = true) : c.toNat < 0x80 := by
  simp only [isAddressChar, Bool.or_eq_true, beq_iff_eq] at h
  rcases h with (h | rfl) | rfl
  · obtain ⟨n, hn⟩ := Option.isSome_iff_exists.mp h
    exact toNat_lt_of_hexValue hn
  · decide
  · decide

/-- What succeeds for a list succeeds for all its members. -/
theorem exists_of_mem_mapM_option {α β : Type} {f : α → Option β} {l : List α} {l' : List β}
    (h : l.mapM f = some l') : ∀ x ∈ l, ∃ y, f x = some y := by
  induction l generalizing l' with
  | nil => exact List.forall_mem_nil _
  | cons a l ih =>
    rw [List.mapM_cons] at h
    obtain ⟨b, hb, h⟩ := Option.bind_eq_some_iff.mp h
    obtain ⟨bs, hbs, -⟩ := Option.bind_eq_some_iff.mp h
    exact List.forall_mem_cons.mpr ⟨⟨b, hb⟩, ih hbs⟩

/-! ## Four bytes -/

namespace IPv4

theorem isDigit_of_octet? {s : List Char} {n : UInt8} (h : octet? s = some n) :
    ∀ c ∈ s, c.isDigit = true := by
  unfold octet? at h
  split at h
  · cases h
  · next hn =>
    simp only [Bool.or_eq_true, not_or, Bool.not_eq_true', Bool.not_eq_false] at hn
    exact List.all_eq_true.mp hn.1.2

/-- The four parts of an address. -/
theorem parse_eq_some_iff {s : List Char} {x : IPv4} : parse s = some x ↔
    (cut (· == '.') s).map octet? = [some x.a, some x.b, some x.c, some x.d] := by
  unfold parse
  constructor
  · intro h
    split at h
    · next he => obtain rfl := Option.some.inj h; exact he
    · cases h
  · intro h
    rw [h]

theorem chars_of_parse {s : List Char} {x : IPv4} (h : parse s = some x) :
    ∀ c ∈ s, c.isDigit = true ∨ c = '.' := by
  intro c hc
  by_cases hpoint : c = '.'
  · exact .inr hpoint
  obtain ⟨part, hpart, hin⟩ := exists_mem_cut (p := (· == '.')) hc (beq_false_of_ne hpoint)
  have hmem : octet? part ∈ (cut (· == '.') s).map octet? := List.mem_map_of_mem hpart
  rw [parse_eq_some_iff.mp h] at hmem
  have hsome : ∃ n, octet? part = some n := by
    simp only [List.mem_cons, List.not_mem_nil, or_false] at hmem
    rcases hmem with h | h | h | h <;> exact ⟨_, h⟩
  obtain ⟨n, hn⟩ := hsome
  exact .inl (isDigit_of_octet? hn c hin)

theorem isAddressChar_of_parse {s : List Char} {x : IPv4} (h : parse s = some x) :
    ∀ c ∈ s, isAddressChar c = true := by
  intro c hc
  rcases chars_of_parse h c hc with hdigit | rfl
  · exact isAddressChar_of_isHex (isHex_of_isDigit hdigit)
  · decide

theorem octet?_of_not_digits {s : List Char} (h : s.all Char.isDigit = false) : octet? s = none := by
  rw [octet?, h]
  simp

theorem octet?_asciiLower (s : List Char) : octet? (asciiLower s) = octet? s := by
  have hall : (asciiLower s).all Char.isDigit = s.all Char.isDigit := by
    rw [asciiLower, List.all_map, show Char.isDigit ∘ Char.toLower = Char.isDigit from
      funext isDigit_toLower]
  cases hs : s.all Char.isDigit with
  | true => rw [asciiLower_of_digits fun c hc => List.all_eq_true.mp hs c hc]
  | false => rw [octet?_of_not_digits hs, octet?_of_not_digits (hall.trans hs)]

theorem parse_asciiLower (s : List Char) : parse (asciiLower s) = parse s := by
  have hoctet : octet? ∘ List.map Char.toLower = octet? := funext octet?_asciiLower
  rw [parse, asciiLower, cut_map point_toLower, List.map_map, hoctet, parse]

theorem parse_append_point (s : List Char) : parse (s ++ ['.']) = none := by
  refine Option.eq_none_iff_forall_ne_some.mpr fun x hx => ?_
  have hparts := parse_eq_some_iff.mp hx
  rw [cut_append_separator rfl, List.map_append] at hparts
  have hlast := congrArg List.getLast? hparts
  simp [octet?] at hlast

/-- Addresses are written in digits and points. -/
theorem isAddressChar_of_mem_text (x : IPv4) : ∀ c ∈ x.text.toList, isAddressChar c = true := by
  intro c hc
  rw [text, String.toList_intercalate] at hc
  rcases mem_of_mem_intercalate hc with h | ⟨part, hpart, h⟩
  · rw [List.mem_singleton.mp h]
    decide
  · rw [List.map_map] at hpart
    obtain ⟨n, -, rfl⟩ := List.mem_map.mp hpart
    exact isAddressChar_of_isHex (isHex_of_isDigit (isDigit_of_mem_toString h))

end IPv4

/-! ## Eight pieces -/

namespace IPv6

theorem isHex_of_piece? {s : List Char} {n : UInt16} (h : piece? s = some n) :
    ∀ c ∈ s, isHex c = true := by
  unfold piece? at h
  split at h
  · cases h
  · obtain ⟨ds, hds, -⟩ := Option.map_eq_some_iff.mp h
    intro c hc
    obtain ⟨d, hd⟩ := exists_of_mem_mapM_option hds c hc
    rw [isHex, hd]
    rfl

theorem isAddressChar_of_pieces? {parts : List (List Char)} {ns : List UInt16}
    (h : pieces? parts = some ns) : ∀ part ∈ parts, ∀ c ∈ part, isAddressChar c = true := by
  induction parts generalizing ns with
  | nil => exact List.forall_mem_nil _
  | cons s parts ih =>
    cases parts with
    | nil =>
      refine List.forall_mem_singleton.mpr ?_
      rw [pieces?] at h
      split at h
      · next n hn => exact fun c hc => isAddressChar_of_isHex (isHex_of_piece? hn c hc)
      · obtain ⟨x, hx, -⟩ := Option.map_eq_some_iff.mp h
        exact IPv4.isAddressChar_of_parse hx
    | cons t rest =>
      rw [pieces?] at h
      split at h
      · next n ns' hn hns =>
        refine List.forall_mem_cons.mpr ⟨fun c hc => ?_, ih hns⟩
        exact isAddressChar_of_isHex (isHex_of_piece? hn c hc)
      · cases h

theorem eq_of_cutDouble {s before after : List Char} (h : cutDouble s = some (before, after)) :
    s = before ++ ':' :: ':' :: after := by
  induction s using cutDouble.induct generalizing before with
  | case1 s =>
    obtain ⟨rfl, rfl⟩ := Prod.mk.inj (Option.some.inj h)
    rfl
  | case2 c s hne ih =>
    rw [cutDouble] at h
    · obtain ⟨⟨b, a⟩, hs, he⟩ := Option.map_eq_some_iff.mp h
      obtain ⟨rfl, rfl⟩ := Prod.mk.inj he
      rw [ih hs]
      rfl
    · exact hne
  | case3 => cases h

theorem isAddressChar_of_partsOf {s : List Char}
    (h : ∀ part ∈ partsOf s, ∀ c ∈ part, isAddressChar c = true) :
    ∀ c ∈ s, isAddressChar c = true := by
  intro c hc
  by_cases hcolon : c = ':'
  · rw [hcolon]
    decide
  · obtain ⟨part, hpart, hin⟩ := exists_mem_cut (p := (· == ':')) hc (beq_false_of_ne hcolon)
    have hparts : partsOf s = cut (· == ':') s := by
      rw [partsOf, if_neg (by simp [List.ne_nil_of_mem hc])]
    exact h part (hparts ▸ hpart) c hin

theorem isAddressChar_of_parse {s : List Char} {x : IPv6} (h : parse s = some x) :
    ∀ c ∈ s, isAddressChar c = true := by
  unfold parse at h
  split at h
  · obtain ⟨ns, hns, -⟩ := Option.bind_eq_some_iff.mp h
    exact isAddressChar_of_partsOf (isAddressChar_of_pieces? hns)
  · next before after hs =>
    split at h
    · next head tail hhead htail =>
      have hbefore : ∀ c ∈ before, isAddressChar c = true := by
        refine isAddressChar_of_partsOf fun part hpart c hc => ?_
        obtain ⟨n, hn⟩ := exists_of_mem_mapM_option hhead part hpart
        exact isAddressChar_of_isHex (isHex_of_piece? hn c hc)
      have hafter := isAddressChar_of_partsOf (isAddressChar_of_pieces? htail)
      rw [eq_of_cutDouble hs]
      refine List.forall_mem_append.mpr ⟨hbefore, ?_⟩
      exact List.forall_mem_cons.mpr ⟨by decide, List.forall_mem_cons.mpr ⟨by decide, hafter⟩⟩
    · cases h

/-! ### Letter case -/

theorem piece?_asciiLower (s : List Char) : piece? (asciiLower s) = piece? s := by
  have hvalue : hexValue ∘ Char.toLower = hexValue := funext hexValue_toLower
  rw [piece?, piece?, asciiLower, List.isEmpty_map, List.length_map, List.mapM_map, hvalue]

theorem pieces?_asciiLower (parts : List (List Char)) :
    pieces? (parts.map asciiLower) = pieces? parts := by
  induction parts with
  | nil => rfl
  | cons s parts ih =>
    cases parts with
    | nil =>
      rw [List.map_singleton, pieces?, pieces?, piece?_asciiLower, IPv4.parse_asciiLower]
    | cons t rest =>
      rw [List.map_cons, List.map_cons, pieces?, pieces?, piece?_asciiLower, ← List.map_cons, ih]

theorem cutDouble_asciiLower (s : List Char) : cutDouble (asciiLower s) =
    (cutDouble s).map fun (before, after) => (asciiLower before, asciiLower after) := by
  induction s using cutDouble.induct with
  | case1 s => rfl
  | case2 c s hne ih =>
    have hcolon : ∀ {d : Char}, d.toLower = ':' → d = ':' := by
      intro d hd
      exact beq_iff_eq.mp ((colon_toLower d).symm.trans (beq_iff_eq.mpr hd))
    have hne' : ∀ t, c.toLower = ':' → asciiLower s = ':' :: t → False := by
      intro t hc ht
      obtain ⟨d, rest, rfl, hd, -⟩ := List.map_eq_cons_iff.mp ht
      exact hne rest (hcolon hc) (congrArg (· :: rest) (hcolon hd))
    rw [show asciiLower (c :: s) = c.toLower :: asciiLower s from rfl, cutDouble, cutDouble, ih]
    · cases cutDouble s <;> rfl
    · exact hne
    · exact hne'
  | case3 => rfl

theorem partsOf_asciiLower (s : List Char) : partsOf (asciiLower s) = (partsOf s).map asciiLower := by
  cases s with
  | nil => rfl
  | cons c s => exact cut_map (p := (· == ':')) (f := Char.toLower) colon_toLower (c :: s)

theorem parse_asciiLower (s : List Char) : parse (asciiLower s) = parse s := by
  have hpiece : piece? ∘ asciiLower = piece? := funext piece?_asciiLower
  unfold parse
  rw [cutDouble_asciiLower]
  cases cutDouble s with
  | none => simp only [Option.map_none, partsOf_asciiLower, pieces?_asciiLower]
  | some halves =>
    simp only [Option.map_some, partsOf_asciiLower, pieces?_asciiLower, List.mapM_map, hpiece]

/-! ### The end -/

theorem piece?_append_point (s : List Char) : piece? (s ++ ['.']) = none := by
  refine Option.eq_none_iff_forall_ne_some.mpr fun n hn => ?_
  exact absurd (isHex_of_piece? hn '.' (List.mem_append_right _ (List.mem_singleton_self _)))
    (by decide)

theorem pieces?_append_point (parts : List (List Char)) (s : List Char) :
    pieces? (parts ++ [s ++ ['.']]) = none := by
  induction parts with
  | nil =>
    rw [List.nil_append, pieces?, piece?_append_point, IPv4.parse_append_point]
    rfl
  | cons part parts ih =>
    obtain ⟨t, rest, hrest⟩ := List.exists_cons_of_ne_nil
      (List.append_ne_nil_of_right_ne_nil parts (List.cons_ne_nil (s ++ ['.']) []))
    rw [List.cons_append, hrest, pieces?, ← hrest, ih]
    cases piece? part <;> rfl

theorem exists_partsOf_append_point (s : List Char) :
    ∃ parts part, partsOf (s ++ ['.']) = parts ++ [part ++ ['.']] := by
  have hparts : partsOf (s ++ ['.']) = cut (· == ':') (s ++ ['.']) := by
    rw [partsOf, if_neg (by simp)]
  rw [hparts]
  exact exists_cut_append (by decide) s

theorem cutDouble_append_point (s : List Char) : cutDouble (s ++ ['.']) =
    (cutDouble s).map fun (before, after) => (before, after ++ ['.']) := by
  induction s using cutDouble.induct with
  | case1 s => rfl
  | case2 c s hne ih =>
    have hne' : ∀ t, c = ':' → s ++ ['.'] = ':' :: t → False := by
      intro t hc ht
      cases s with
      | nil => cases ht
      | cons d rest =>
        obtain ⟨rfl, -⟩ := List.cons.inj ht
        exact hne rest hc rfl
    rw [List.cons_append, cutDouble, cutDouble, ih]
    · cases cutDouble s <;> rfl
    · exact hne
    · exact hne'
  | case3 => rfl

theorem parse_append_point (s : List Char) : parse (s ++ ['.']) = none := by
  unfold parse
  rw [cutDouble_append_point]
  cases cutDouble s with
  | none =>
    obtain ⟨parts, part, hparts⟩ := exists_partsOf_append_point s
    simp only [Option.map_none, hparts, pieces?_append_point, Option.bind_none]
  | some halves =>
    obtain ⟨parts, part, hparts⟩ := exists_partsOf_append_point halves.2
    simp only [Option.map_some, hparts, pieces?_append_point]
    cases (partsOf halves.1).mapM piece? <;> rfl

/-! ### Four bytes in eight pieces -/

/-- A four-byte address is no piece. -/
theorem piece?_of_parse_four {s : List Char} {x : IPv4} (h : IPv4.parse s = some x) :
    piece? s = none := by
  have hpoint : '.' ∈ s := by
    by_contra hnot
    have hcut : cut (· == '.') s = [s] := by
      refine cut_of_forall_not fun c hc => beq_false_of_ne ?_
      rintro rfl
      exact hnot hc
    have hparts := IPv4.parse_eq_some_iff.mp h
    rw [hcut] at hparts
    have hlength : 1 = 4 := congrArg List.length hparts
    omega
  refine Option.eq_none_iff_forall_ne_some.mpr fun n hn => ?_
  exact absurd (isHex_of_piece? hn '.' hpoint) (by decide)

/-- A four-byte address behind `::ffff:` is the address that stands for it. -/
theorem parse_mapped {s : List Char} {x : IPv4} (h : IPv4.parse s = some x) :
    parse ("::ffff:".toList ++ s) = some ⟨[0, 0, 0, 0, 0, 0xFFFF] ++ ofFour x, rfl⟩ := by
  have hcolon : ∀ c ∈ s, (c == ':') = false := by
    intro c hc
    refine beq_false_of_ne ?_
    rintro rfl
    exact absurd (IPv4.chars_of_parse h ':' hc) (by decide)
  have hdouble : cutDouble ("::ffff:".toList ++ s) = some ([], "ffff:".toList ++ s) := rfl
  have hparts : partsOf ("ffff:".toList ++ s) = ["ffff".toList, s] := by
    have hcut : cut (· == ':') s = [s] := cut_of_forall_not hcolon
    exact (show cut (· == ':') ("ffff".toList ++ ':' :: s) = _ by simp [cut, hcut])
  have hpieces : pieces? ["ffff".toList, s] = some (0xFFFF :: ofFour x) := by
    have hfirst : piece? "ffff".toList = some 0xFFFF := by decide
    rw [pieces?, hfirst, pieces?, piece?_of_parse_four h, h]
    rfl
  rw [parse, hdouble]
  dsimp only
  rw [hparts, hpieces]
  rfl

/-! ### In writing -/

theorem isAddressChar_of_mem_piecesText {ns : List UInt16} :
    ∀ c ∈ (piecesText ns).toList, isAddressChar c = true := by
  intro c hc
  rw [piecesText, String.toList_intercalate] at hc
  rcases mem_of_mem_intercalate hc with h | ⟨part, hpart, h⟩
  · rw [List.mem_singleton.mp h]
    decide
  · rw [List.map_map] at hpart
    obtain ⟨n, -, rfl⟩ := List.mem_map.mp hpart
    rw [Function.comp_apply, String.toList_ofList] at h
    exact isAddressChar_of_isHex (isHex_of_mem_hexNumber h)

theorem colon_mem_piecesText {ns : List UInt16} (h : 2 ≤ ns.length) : ':' ∈ (piecesText ns).toList := by
  match ns with
  | n :: n' :: ns =>
    rw [piecesText, String.toList_intercalate, List.map_cons, List.map_cons, List.map_cons,
      List.map_cons, List.intercalate_cons_cons]
    exact List.mem_append_left _ (List.mem_append_right _ List.mem_cons_self)

/-- Addresses are written in digits, colons and points. -/
theorem isAddressChar_of_mem_text (x : IPv6) : ∀ c ∈ x.text.toList, isAddressChar c = true := by
  unfold text
  split
  · next four _ =>
    rw [String.toList_append]
    exact List.forall_mem_append.mpr
      ⟨List.all_eq_true.mp (by decide), four.isAddressChar_of_mem_text⟩
  · dsimp only
    split
    · rw [String.toList_append, String.toList_append]
      refine List.forall_mem_append.mpr ⟨List.forall_mem_append.mpr ⟨?_, ?_⟩, ?_⟩
      · exact isAddressChar_of_mem_piecesText
      · exact List.all_eq_true.mp (by decide)
      · exact isAddressChar_of_mem_piecesText
    · exact isAddressChar_of_mem_piecesText

/-- Every address of eight pieces has a colon. -/
theorem colon_mem_text (x : IPv6) : ':' ∈ x.text.toList := by
  unfold text
  split
  · rw [String.toList_append]
    exact List.mem_append_left _ (by decide)
  · dsimp only
    split
    · rw [String.toList_append, String.toList_append]
      exact List.mem_append_left _ (List.mem_append_right _ (by decide))
    · exact colon_mem_piecesText (by rw [x.length_eq]; decide)

end IPv6

end DirectoryClient
