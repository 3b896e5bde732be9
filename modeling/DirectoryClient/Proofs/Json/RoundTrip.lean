import DirectoryClient.Proofs.Json.Numbers
import DirectoryClient.Proofs.Json.Strings
import Mathlib.Data.List.DropRight

/-!
# Written values are read back

* `Readable`        the values that are read back: whole numbers fit in 64 bits, floating-point
                    numbers are those that read back, and no name occurs twice in an object;
* `Reads`           a value is read where it is written, and what follows it is left;
* `reads_of_readable`   every readable value is read so;
* `parse_compact`   the compact text of a readable value is a text of this value.
-/

namespace DirectoryClient.Json

inductive Readable : Json → Prop
  | null : Readable .null
  | bool (b : Bool) : Readable (.bool b)
  | int {n : Int} (h : FitsWord n) : Readable (.int n)
  | float {x : Float} (h : ReadsBack x) : Readable (.float x)
  | str (s : String) : Readable (.str s)
  | arr {items : List Json} (h : ∀ j ∈ items, Readable j) : Readable (.arr items)
  | obj {members : List (String × Json)} (hkeys : (members.map Prod.fst).Nodup)
      (h : ∀ m ∈ members, Readable m.2) : Readable (.obj members)

/-- The value is read where it is written, whatever may follow it, if the bound on the depth of the
recursion exceeds its text. -/
def Reads (j : Json) : Prop :=
  ∀ n s, (text j).length < n → Ends s → readValue n (text j ++ s) = some (j, s)

/-! ## Plain values -/

theorem skip_of_not_isGap {c : Char} (hc : isGap c = false) (s : List Char) :
    skip (c :: s) = c :: s :=
  List.dropWhile_cons_of_neg (by rw [hc]; exact Bool.false_ne_true)

theorem afterWord_of_ne {a c : Char} (h : a ≠ c) (w s : List Char) :
    afterWord (a :: w) (c :: s) = none := by
  have hw : (a :: w).isPrefixOf (c :: s) = false := by
    rw [List.isPrefixOf_cons_cons, beq_eq_false_iff_ne.mpr h, Bool.false_and]
  rw [afterWord, hw]
  rfl

theorem reads_null : Reads .null := by
  rintro (_ | n) s hn -
  · cases hn
  · rfl

theorem reads_bool (b : Bool) : Reads (.bool b) := by
  rintro (_ | n) s hn -
  · cases hn
  · cases b <;> rfl

/-- A character that begins a number begins nothing else. -/
theorem head_of_number {c : Char} (hc : c = '-' ∨ c.isDigit = true) :
    isGap c = false ∧ c ≠ '"' ∧ c ≠ '[' ∧ c ≠ '\x7b' ∧ c ≠ 'n' ∧ c ≠ 't' ∧ c ≠ 'f' := by
  have hne (d : Char) (hd : (d == '-' || d.isDigit) = false) : c ≠ d := by
    rintro rfl
    rcases hc with rfl | hc
    · cases hd
    · rw [hc, Bool.or_true] at hd
      cases hd
  refine ⟨?_, hne _ (by decide), hne _ (by decide), hne _ (by decide), hne _ (by decide),
    hne _ (by decide), hne _ (by decide)⟩
  simp [isGap, hne ' ' (by decide), hne '\n' (by decide), hne '\r' (by decide),
    hne '\t' (by decide)]

theorem readValue_of_number {c : Char} (hc : c = '-' ∨ c.isDigit = true) (n : Nat)
    (s : List Char) : readValue (n + 1) (c :: s) = readNumber (c :: s) := by
  obtain ⟨hgap, hquote, hbracket, hbrace, hn, ht, hf⟩ := head_of_number hc
  rw [readValue, skip_of_not_isGap hgap]
  split
  · simp_all
  · simp_all
  · simp_all
  · rw [afterWord_of_ne hn.symm, afterWord_of_ne ht.symm, afterWord_of_ne hf.symm]

theorem reads_of_readNumber {j : Json} (h : readNumber (text j) = some (j, [])) : Reads j := by
  rintro (_ | n) s hn hs
  · cases hn
  · have hread : readNumber (text j ++ s) = some (j, s) := by
      rw [readNumber_append hs, h]
      rfl
    obtain ⟨c, r, hcr, hc⟩ := exists_of_readNumber hread
    rw [hcr] at hread ⊢
    rw [readValue_of_number hc, hread]

theorem reads_str (t : String) : Reads (.str t) := by
  rintro (_ | n) s hn -
  · cases hn
  · obtain ⟨r, htext, hread⟩ := readString_stringText t s
    have hvalue : readValue (n + 1) ('"' :: r) =
        (readString [] r).map fun a => (.str a.1, a.2) := rfl
    rw [text, htext, hvalue, hread]
    rfl

/-! ## Arrays -/

theorem ends_itemsText (items : List Json) (s : List Char) :
    Ends (itemsText items ++ ']' :: s) := by
  cases items with
  | nil => exact .bracket s
  | cons j items =>
    rw [itemsText]
    exact .comma _

/-- The items of an array are read one by one; the induction is on those behind the first one. -/
theorem readItems_text {j : Json} {items : List Json} (h : ∀ i ∈ j :: items, Reads i)
    (seen : List Json) (n : Nat) (s : List Char)
    (hn : (text j).length + (itemsText items).length + 1 < n) :
    readItems n seen (text j ++ (itemsText items ++ ']' :: s)) =
      some (.arr (seen.reverse ++ j :: items), s) := by
  induction items generalizing j seen n with
  | nil =>
    obtain _ | n := n
    · cases hn
    · have hj := h j List.mem_cons_self n (']' :: s) (by omega) (.bracket s)
      have hskip : skip (']' :: s) = ']' :: s := rfl
      rw [itemsText, List.nil_append, readItems, hj]
      simp only [hskip]
      rw [List.reverse_cons]
  | cons i items ih =>
    obtain _ | n := n
    · cases hn
    · have hlength : (itemsText (i :: items)).length =
          1 + (text i).length + (itemsText items).length := by
        rw [itemsText]
        simp only [List.length_append, List.length_singleton]
      have hj := h j List.mem_cons_self n _ (by omega) (ends_itemsText (i :: items) s)
      have htail : itemsText (i :: items) ++ ']' :: s =
          ',' :: (text i ++ (itemsText items ++ ']' :: s)) := by
        rw [itemsText]
        simp
      have hskip (r : List Char) : skip (',' :: r) = ',' :: r := rfl
      have hrest := ih (fun k hk => h k (List.mem_cons_of_mem j hk)) (j :: seen) n (by omega)
      rw [readItems, hj, htail]
      simp only [hskip]
      rw [hrest, List.reverse_cons, List.append_assoc]
      rfl

theorem skip_skip (s : List Char) : skip (skip s) = skip s := List.dropWhile_idempotent ..

theorem readValue_skip (n : Nat) (s : List Char) : readValue n (skip s) = readValue n s := by
  cases n with
  | zero => rfl
  | succ n => rw [readValue, readValue, skip_skip]

theorem readItems_skip (n : Nat) (seen : List Json) (s : List Char) :
    readItems n seen (skip s) = readItems n seen s := by
  cases n with
  | zero => rfl
  | succ n => rw [readItems, readItems, readValue_skip]

theorem readValue_eq_none {s r : List Char} (h : skip s = ']' :: r) (n : Nat) :
    readValue n s = none := by
  cases n with
  | zero => rfl
  | succ n =>
    rw [← readValue_skip, h]
    rfl

theorem readValue_array {n : Nat} {s : List Char} {a : Json × List Char}
    (h : readItems n [] s = some a) : readValue (n + 1) ('[' :: s) = some a := by
  have hskip : skip ('[' :: s) = '[' :: s := rfl
  rw [readValue, hskip]
  simp only
  split
  · rename_i r hr
    -- the end of an array begins no item
    obtain _ | n := n
    · cases h
    · rw [readItems, readValue_eq_none hr] at h
      cases h
  · rw [readItems_skip, h]

theorem reads_arr {items : List Json} (h : ∀ j ∈ items, Reads j) : Reads (.arr items) := by
  rintro (_ | n) s hn -
  · cases hn
  · cases items with
    | nil => rfl
    | cons j items =>
      rw [text] at hn ⊢
      simp only [List.length_append, List.length_singleton] at hn
      have hitems := readItems_text h [] n s (by omega)
      have htext : ['['] ++ text j ++ itemsText items ++ [']'] ++ s =
          '[' :: (text j ++ (itemsText items ++ ']' :: s)) := by simp
      rw [htext, readValue_array hitems]
      rfl

/-! ## Objects -/

/-- A name that is new is put at the end. -/
theorem setMember_of_nodup {key : String} {value : Json} {seen members : List (String × Json)}
    (h : ((seen ++ (key, value) :: members).map Prod.fst).Nodup) :
    setMember key value seen = seen ++ [(key, value)] := by
  rw [List.map_append, List.map_cons] at h
  have hnew : key ∉ seen.map Prod.fst :=
    fun hk => (List.nodup_append.mp h).2.2 key hk key List.mem_cons_self rfl
  have hfilter : seen.filter (fun m => m.1 != key) = seen := by
    refine List.filter_eq_self.mpr fun m hm => bne_iff_ne.mpr ?_
    rintro rfl
    exact hnew (List.mem_map_of_mem hm)
  rw [setMember, hfilter]

/-- What stands behind a member, and what is read then: another member, or the end of the object. -/
inductive Behind (n : Nat) (members : List (String × Json)) :
    List Char → Option (Json × List Char) → Prop
  | more (s : List Char) : Behind n members (',' :: s) (readMembers n members s)
  | last (s : List Char) : Behind n members ('\x7d' :: s) (some (.obj members, s))

theorem readMembers_cons {key : String} {value : Json} {n : Nat} {seen : List (String × Json)}
    {s : List Char} {a : Option (Json × List Char)}
    (h : readValue n (text value ++ s) = some (value, s))
    (hs : Behind n (setMember key value seen) s a) :
    readMembers (n + 1) seen (stringText key ++ ':' :: (text value ++ s)) = a := by
  obtain ⟨r, htext, hread⟩ := readString_stringText key (':' :: (text value ++ s))
  have hquote : skip ('"' :: r) = '"' :: r := rfl
  have hcolon (t : List Char) : skip (':' :: t) = ':' :: t := rfl
  rw [htext, readMembers, hquote]
  simp only [hread, hcolon, h]
  cases hs <;> rfl

/-- The members of an object are read one by one, if none of them has the name of another. -/
theorem readMembers_text {key : String} {value : Json} {members : List (String × Json)}
    (h : ∀ m ∈ (key, value) :: members, Reads m.2) (seen : List (String × Json))
    (hkeys : ((seen ++ (key, value) :: members).map Prod.fst).Nodup) (n : Nat) (s : List Char)
    (hn : (text value).length + (membersText members).length + 2 < n) :
    readMembers n seen (stringText key ++
        ':' :: (text value ++ (membersText members ++ '\x7d' :: s))) =
      some (.obj (seen ++ (key, value) :: members), s) := by
  have hset := setMember_of_nodup hkeys
  have hvalue : Reads value := h _ List.mem_cons_self
  induction members generalizing key value seen n with
  | nil =>
    obtain _ | n := n
    · cases hn
    · have hread := hvalue n _ (by omega) (.brace s)
      rw [membersText, List.nil_append, readMembers_cons hread (.last s), hset]
  | cons m members ih =>
    obtain ⟨next, following⟩ := m
    obtain _ | n := n
    · cases hn
    · have hlength : (membersText ((next, following) :: members)).length =
          1 + (stringText next).length + 1 + (text following).length +
            (membersText members).length := by
        rw [membersText]
        simp only [List.length_append, List.length_singleton]
      have htail : membersText ((next, following) :: members) ++ '\x7d' :: s =
          ',' :: (stringText next ++
            ':' :: (text following ++ (membersText members ++ '\x7d' :: s))) := by
        rw [membersText]
        simp
      have hsplit : seen ++ (key, value) :: (next, following) :: members =
          seen ++ [(key, value)] ++ (next, following) :: members := by simp
      have hread := hvalue n _ (by omega) (.comma (stringText next ++
        ':' :: (text following ++ (membersText members ++ '\x7d' :: s))))
      rw [hsplit] at hkeys
      have hrest := ih (fun k hk => h k (List.mem_cons_of_mem _ hk)) (seen ++ [(key, value)]) hkeys n
        (by omega) (setMember_of_nodup hkeys) (h _ (List.mem_cons_of_mem _ List.mem_cons_self))
      rw [htail, readMembers_cons hread (.more _), hset, hsplit]
      exact hrest

theorem reads_obj {members : List (String × Json)} (hkeys : (members.map Prod.fst).Nodup)
    (h : ∀ m ∈ members, Reads m.2) : Reads (.obj members) := by
  rintro (_ | n) s hn -
  · cases hn
  · cases members with
    | nil => rfl
    | cons m members =>
      obtain ⟨key, value⟩ := m
      rw [text] at hn ⊢
      simp only [List.length_append, List.length_singleton] at hn
      have hmembers := readMembers_text h [] hkeys n s (by omega)
      obtain ⟨r, hr, -⟩ := readString_stringText key
        (':' :: (text value ++ (membersText members ++ '\x7d' :: s)))
      have htext : ['\x7b'] ++ stringText key ++ [':'] ++ text value ++ membersText members ++
          ['\x7d'] ++ s = '\x7b' :: (stringText key ++
            ':' :: (text value ++ (membersText members ++ '\x7d' :: s))) := by simp
      have hvalue : readValue (n + 1) ('\x7b' :: '"' :: r) = readMembers n [] ('"' :: r) := rfl
      rw [htext, hr, hvalue, ← hr, hmembers]
      rfl

/-! ## All values -/

theorem reads_of_readable {j : Json} (h : Readable j) : Reads j := by
  induction h with
  | null => exact reads_null
  | bool b => exact reads_bool b
  | int h => exact reads_of_readNumber (readNumber_intText h)
  | float h => exact reads_of_readNumber h
  | str s => exact reads_str s
  | arr h ih => exact reads_arr ih
  | obj hkeys h ih => exact reads_obj hkeys ih

/-- **The compact text of a readable value is a text of this value.** -/
theorem parse_compact {j : Json} (h : Readable j) : parse (compact j) = some j := by
  have hread := reads_of_readable h (2 * (text j).length + 2) [] (by omega) .nil
  rw [List.append_nil] at hread
  rw [parse, compact, String.toList_ofList, hread]
  rfl

end DirectoryClient.Json
