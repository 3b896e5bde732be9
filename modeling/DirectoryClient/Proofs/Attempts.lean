import Mathlib.Data.List.Forall2

/-!
# Lists of attempts

A list of attempts gives a list of answers if none of them fails.

* `mapM_eq_ok_iff`    the answers, one for each attempt;
* `length_of_mapM`, `exists_of_mapM`, `getElem?_of_mapM`   how many there are, where each comes
                      from, and in which place;
* `mapM_concat_eq_ok_iff`   one more attempt at the end;
* `mapM_eq_ok_self`   attempts that give back what they are made on;
* `exists_of_mem_mapM`, `exists_mapM_eq_ok`   nothing fails;
* `mapM_eq_error`, `exists_of_mapM_eq_error`   something fails, and the first such attempt decides.
-/

namespace DirectoryClient

variable {α β ε : Type} {f : α → Except ε β} {l : List α} {l' : List β}

theorem mapM_eq_ok_iff : l.mapM f = .ok l' ↔ List.Forall₂ (fun x y => f x = .ok y) l l' := by
  induction l generalizing l' with
  | nil =>
    rw [List.forall₂_nil_left_iff]
    exact ⟨fun h => (Except.ok.inj h).symm, fun h => h ▸ rfl⟩
  | cons a l ih =>
    rw [List.forall₂_cons_left_iff, List.mapM_cons]
    constructor
    · intro h
      cases ha : f a with
      | error e => rw [ha] at h; cases h
      | ok b =>
        cases hl : l.mapM f with
        | error e => rw [ha, hl] at h; cases h
        | ok bs =>
          rw [ha, hl] at h
          exact ⟨b, bs, rfl, ih.mp hl, (Except.ok.inj h).symm⟩
    · rintro ⟨b, bs, ha, hl, rfl⟩
      rw [ha, ih.mpr hl]
      rfl

theorem length_of_mapM (h : l.mapM f = .ok l') : l'.length = l.length :=
  (mapM_eq_ok_iff.mp h).length_eq.symm

/-- Whatever comes out of a list in which nothing fails comes from one of its members. -/
theorem exists_of_mapM (h : l.mapM f = .ok l') : ∀ y ∈ l', ∃ x ∈ l, f x = .ok y := by
  induction mapM_eq_ok_iff.mp h with
  | nil => exact List.forall_mem_nil _
  | cons ha hl ih =>
    refine List.forall_mem_cons.mpr ⟨⟨_, List.mem_cons_self, ha⟩, fun y hy => ?_⟩
    obtain ⟨x, hx, he⟩ := ih (mapM_eq_ok_iff.mpr hl) y hy
    exact ⟨x, List.mem_cons_of_mem _ hx, he⟩

theorem exists_of_mem_mapM (h : l.mapM f = .ok l') : ∀ x ∈ l, ∃ y, f x = .ok y := by
  induction mapM_eq_ok_iff.mp h with
  | nil => exact List.forall_mem_nil _
  | cons ha hl ih => exact List.forall_mem_cons.mpr ⟨⟨_, ha⟩, ih (mapM_eq_ok_iff.mpr hl)⟩

theorem getElem?_of_mapM (h : l.mapM f = .ok l') {i : Nat} {x : α} (hx : l[i]? = some x) :
    ∃ y, f x = .ok y ∧ l'[i]? = some y := by
  induction mapM_eq_ok_iff.mp h generalizing i with
  | nil => cases hx
  | cons ha hl ih =>
    cases i with
    | zero =>
      obtain rfl := Option.some.inj hx
      exact ⟨_, ha, rfl⟩
    | succ i => exact ih (mapM_eq_ok_iff.mpr hl) hx

theorem exists_mapM_eq_ok (h : ∀ x ∈ l, ∃ y, f x = .ok y) : ∃ l', l.mapM f = .ok l' := by
  induction l with
  | nil => exact ⟨[], rfl⟩
  | cons a l ih =>
    obtain ⟨⟨b, hb⟩, hl⟩ := List.forall_mem_cons.mp h
    obtain ⟨l', hl'⟩ := ih hl
    exact ⟨b :: l', mapM_eq_ok_iff.mpr (.cons hb (mapM_eq_ok_iff.mp hl'))⟩

/-- Nothing fails if nothing does in front, and the last attempt does not. -/
theorem mapM_concat_eq_ok_iff {a : α} : (l ++ [a]).mapM f = .ok l' ↔
    ∃ bs b, l.mapM f = .ok bs ∧ f a = .ok b ∧ l' = bs ++ [b] := by
  rw [List.mapM_append, List.mapM_cons, List.mapM_nil]
  constructor
  · intro h
    cases hl : l.mapM f with
    | error e => rw [hl] at h; cases h
    | ok bs =>
      cases ha : f a with
      | error e => rw [hl, ha] at h; cases h
      | ok b =>
        rw [hl, ha] at h
        exact ⟨bs, b, rfl, rfl, (Except.ok.inj h).symm⟩
  · rintro ⟨bs, b, hl, ha, rfl⟩
    rw [hl, ha]
    rfl

/-- The first attempt that fails decides. -/
theorem mapM_eq_error {front back : List α} {a : α} {e : ε} (hfront : ∀ x ∈ front, ∃ y, f x = .ok y)
    (ha : f a = .error e) : (front ++ a :: back).mapM f = .error e := by
  induction front with
  | nil =>
    rw [List.nil_append, List.mapM_cons, ha]
    rfl
  | cons x front ih =>
    obtain ⟨⟨y, hy⟩, hrest⟩ := List.forall_mem_cons.mp hfront
    rw [List.cons_append, List.mapM_cons, hy]
    show ((front ++ a :: back).mapM f >>= fun ys => pure (y :: ys)) = _
    rw [ih hrest]
    rfl

/-- An error comes from the first attempt that fails. -/
theorem exists_of_mapM_eq_error {e : ε} (h : l.mapM f = .error e) :
    ∃ front a back, l = front ++ a :: back ∧ (∀ x ∈ front, ∃ y, f x = .ok y) ∧ f a = .error e := by
  induction l with
  | nil => cases h
  | cons a l ih =>
    rw [List.mapM_cons] at h
    cases ha : f a with
    | error e' =>
      rw [ha] at h
      obtain rfl := Except.error.inj h
      exact ⟨[], a, l, rfl, List.forall_mem_nil _, ha⟩
    | ok b =>
      cases hl : l.mapM f with
      | ok bs =>
        rw [ha, hl] at h
        cases h
      | error e' =>
        rw [ha, hl] at h
        obtain rfl := Except.error.inj h
        obtain ⟨front, c, back, rfl, hfront, hc⟩ := ih hl
        exact ⟨a :: front, c, back, rfl, List.forall_mem_cons.mpr ⟨⟨b, ha⟩, hfront⟩, hc⟩

theorem mapM_eq_ok_self {f : α → Except ε α} (h : ∀ x ∈ l, f x = .ok x) : l.mapM f = .ok l :=
  mapM_eq_ok_iff.mpr (List.forall₂_same.mpr h)

end DirectoryClient
