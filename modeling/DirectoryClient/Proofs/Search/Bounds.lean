import DirectoryClient.Search.Loop

/-!
# Bounds that are large enough

What a search does depends on its bounds only as long as they are too small.

* `Searching.Comes`        what a bounded computation comes to if the bound is large enough;
* `Searching.Halts`        whether it comes to anything;
* `Searching.Attains`      whether it comes to something with a property;
* `Transport.Finite`       a cursor that has finitely many responses (`halts_pass`);
* `Searching.Within`       an answer that is kept (`within_run`, `Comes.none_or_eq`).
-/

namespace DirectoryClient

section
variable {N O α β : Type}

/-- what a bounded computation comes to, whatever the bound is if it is large enough -/
def Searching.Comes (x : Nat → Searching N O (Option α)) (p : Progress O) (w : World N) (a : α)
    (p' : Progress O) (w' : World N) : Prop :=
  ∃ least, ∀ fuel, least ≤ fuel → x fuel p w = ((some a, p'), w')

theorem Searching.lift_apply {x : Act N α} {p : Progress O} {w w' : World N} {a : α}
    (h : x w = (a, w')) : (liftM x : Searching N O α) p w = ((a, p), w') := by
  show (((x w).1, p), (x w).2) = _
  rw [h]

namespace Searching.Comes

variable {p p₁ p' : Progress O} {w w₁ w' : World N} {a : α} {b : β}

theorem pure : Comes (fun _ => (Pure.pure (some a) : Searching N O (Option α))) p w a p w :=
  ⟨0, fun _ _ => rfl⟩

theorem exists_eq {x : Nat → Searching N O (Option α)} (h : Comes x p w a p' w') :
    ∃ fuel, x fuel p w = ((some a, p'), w') := by
  obtain ⟨least, h⟩ := h
  exact ⟨least, h least (Nat.le_refl _)⟩

theorem succ {x : Nat → Searching N O (Option α)}
    (h : Comes (fun fuel => x (fuel + 1)) p w a p' w') : Comes x p w a p' w' := by
  obtain ⟨least, h⟩ := h
  refine ⟨least + 1, fun fuel hle => ?_⟩
  obtain ⟨k, rfl⟩ := Nat.exists_eq_add_of_le' (Nat.le_of_add_left_le hle)
  exact h k (Nat.le_of_succ_le_succ hle)

/-- a computation without a bound comes first -/
theorem step {y : Searching N O β} {f : β → Nat → Searching N O (Option α)}
    (hy : y p w = ((b, p₁), w₁)) (hf : Comes (f b) p₁ w₁ a p' w') :
    Comes (fun fuel => y >>= fun b => f b fuel) p w a p' w' := by
  obtain ⟨least, hf⟩ := hf
  refine ⟨least, fun fuel hle => ?_⟩
  show f (y p w).1.1 fuel (y p w).1.2 (y p w).2 = _
  rw [hy]
  exact hf fuel hle

theorem bind {y : Nat → Searching N O (Option β)} {f : Option β → Nat → Searching N O (Option α)}
    (hy : Comes y p w b p₁ w₁) (hf : Comes (f (some b)) p₁ w₁ a p' w') :
    Comes (fun fuel => y fuel >>= fun o => f o fuel) p w a p' w' := by
  obtain ⟨least, hy⟩ := hy
  obtain ⟨least', hf⟩ := hf
  refine ⟨max least least', fun fuel hle => ?_⟩
  show f (y fuel p w).1.1 fuel (y fuel p w).1.2 (y fuel p w).2 = _
  rw [hy fuel (Nat.le_trans (Nat.le_max_left _ _) hle)]
  exact hf fuel (Nat.le_trans (Nat.le_max_right _ _) hle)

end Searching.Comes

/-- whether a bounded computation comes to anything -/
def Searching.Halts (x : Nat → Searching N O (Option α)) (p : Progress O) (w : World N) : Prop :=
  ∃ a p' w', Searching.Comes x p w a p' w'

namespace Searching.Halts

variable {p p₁ : Progress O} {w w₁ : World N} {a : α} {b : β}

theorem pure : Halts (fun _ => (Pure.pure (some a) : Searching N O (Option α))) p w :=
  ⟨a, p, w, .pure⟩

theorem succ {x : Nat → Searching N O (Option α)} (h : Halts (fun fuel => x (fuel + 1)) p w) :
    Halts x p w := by
  obtain ⟨a, p', w', h⟩ := h
  exact ⟨a, p', w', h.succ⟩

theorem step {y : Searching N O β} {f : β → Nat → Searching N O (Option α)}
    (hy : y p w = ((b, p₁), w₁)) (hf : Halts (f b) p₁ w₁) :
    Halts (fun fuel => y >>= fun b => f b fuel) p w := by
  obtain ⟨a, p', w', hf⟩ := hf
  exact ⟨a, p', w', .step hy hf⟩

theorem bind {y : Nat → Searching N O (Option β)} {f : Option β → Nat → Searching N O (Option α)}
    (hy : Comes y p w b p₁ w₁) (hf : Halts (f (some b)) p₁ w₁) :
    Halts (fun fuel => y fuel >>= fun o => f o fuel) p w := by
  obtain ⟨a, p', w', hf⟩ := hf
  exact ⟨a, p', w', .bind hy hf⟩

end Searching.Halts

/-- whether a bounded computation comes to something with a property, whatever its progress is then -/
def Searching.Attains (x : Nat → Searching N O (Option α)) (p : Progress O) (w : World N)
    (P : α → World N → Prop) : Prop :=
  ∃ a p' w', Searching.Comes x p w a p' w' ∧ P a w'

namespace Searching.Attains

variable {p p₁ : Progress O} {w w₁ : World N} {a : α} {b : β} {P : α → World N → Prop}

theorem pure (h : P a w) :
    Attains (fun _ => (Pure.pure (some a) : Searching N O (Option α))) p w P :=
  ⟨a, p, w, .pure, h⟩

theorem succ {x : Nat → Searching N O (Option α)} (h : Attains (fun fuel => x (fuel + 1)) p w P) :
    Attains x p w P := by
  obtain ⟨a, p', w', h, ha⟩ := h
  exact ⟨a, p', w', h.succ, ha⟩

theorem step {y : Searching N O β} {f : β → Nat → Searching N O (Option α)}
    (hy : y p w = ((b, p₁), w₁)) (hf : Attains (f b) p₁ w₁ P) :
    Attains (fun fuel => y >>= fun b => f b fuel) p w P := by
  obtain ⟨a, p', w', hf, ha⟩ := hf
  exact ⟨a, p', w', .step hy hf, ha⟩

theorem bind {y : Nat → Searching N O (Option β)} {f : Option β → Nat → Searching N O (Option α)}
    (hy : Comes y p w b p₁ w₁) (hf : Attains (f (some b)) p₁ w₁ P) :
    Attains (fun fuel => y fuel >>= fun o => f o fuel) p w P := by
  obtain ⟨a, p', w', hf, ha⟩ := hf
  exact ⟨a, p', w', .bind hy hf, ha⟩

end Searching.Attains

/-- Whatever the first computation comes to, the second one comes to as well. -/
def Searching.Within (x x' : Searching N O (Option α)) : Prop :=
  ∀ ⦃p w a p' w'⦄, x p w = ((some a, p'), w') → x' p w = ((some a, p'), w')

namespace Searching.Within

theorem refl (x : Searching N O (Option α)) : Within x x := fun _ _ _ _ _ h => h

theorem unfinished (x : Searching N O (Option α)) : Within (Pure.pure none) x := by
  intro p w a p' w' h
  cases h

theorem step {y : Searching N O β} {f f' : β → Searching N O (Option α)}
    (hf : ∀ b, Within (f b) (f' b)) : Within (y >>= f) (y >>= f') :=
  fun p w _ _ _ h => hf (y p w).1.1 h

theorem bind {y y' : Searching N O (Option β)} {f f' : Option β → Searching N O (Option α)}
    (hy : Within y y') (hn : f none = Pure.pure none)
    (hf : ∀ b, Within (f (some b)) (f' (some b))) : Within (y >>= f) (y' >>= f') := by
  intro p w a p' w' h
  have hb : (y >>= f) p w = f (y p w).1.1 (y p w).1.2 (y p w).2 := rfl
  have hb' : (y' >>= f') p w = f' (y' p w).1.1 (y' p w).1.2 (y' p w).2 := rfl
  rw [hb] at h
  rcases he : y p w with ⟨⟨_ | b, p₁⟩, w₁⟩
  · rw [he, hn] at h
    cases h
  · rw [he] at h
    rw [hb', hy he]
    exact hf b h

end Searching.Within

/-- Where larger bounds keep the answer, every bound gives this answer or none. -/
theorem Searching.Comes.none_or_eq {x : Nat → Searching N O (Option α)}
    (hx : ∀ {fuel fuel'}, fuel ≤ fuel' → Within (x fuel) (x fuel')) {p p' : Progress O}
    {w w' : World N} {a : α} (h : Comes x p w a p' w') (fuel : Nat) :
    (x fuel p w).1.1 = none ∨ x fuel p w = ((some a, p'), w') := by
  obtain ⟨least, h⟩ := h
  rcases he : x fuel p w with ⟨⟨_ | b, p₁⟩, w₁⟩
  · exact .inl rfl
  · have hlarge := hx (Nat.le_max_left fuel least) he
    rw [h _ (Nat.le_max_right fuel least)] at hlarge
    exact .inr hlarge.symm

end

/-! ## Cursors and passes -/

/-- A cursor that has finitely many responses: after each one there are finitely many more. -/
inductive Transport.Finite {N : Type} (t : Transport N) (c : CursorId) : N → Prop
  | intro {n : N} (h : ∀ r, (t.next c n).1 = .ok (some r) → Finite t c (t.next c n).2) :
      Finite t c n

namespace Search

variable {N O : Type} (s : Search N O)

theorem halts_stream {c : CursorId} {n : N} (h : s.manager.transport.Finite c n)
    (p : Progress O) (w : World N) (hw : w.net = n) : Searching.Halts (s.stream c) p w := by
  induction h generalizing p w with
  | intro h ih =>
    subst hw
    have hstep : (liftM (s.manager.transport.advance c) : Searching N O _) p w =
      (((s.manager.transport.next c w.net).1, p), (s.manager.transport.advance c w).2) := rfl
    rcases ha : (s.manager.transport.next c w.net).1 with f | (_ | (e | urls | _)) <;>
      rw [ha] at hstep
    · exact .succ (.step hstep (.step rfl .pure))
    · exact .succ (.step hstep .pure)
    · refine .succ (.step hstep (.step rfl ?_))
      cases hx : s.consumer.toObject e with
      | error err => exact .step rfl .pure
      | ok x =>
        refine .step rfl ?_
        cases s.consumer.wantsMore (p.counting.handing x).handed with
        | true => exact ih _ ha _ _ rfl
        | false => exact .step rfl .pure
    · exact .succ (.step hstep (ih _ ha p _ rfl))
    · exact .succ (.step hstep (ih _ ha p _ rfl))

theorem halts_pass {request : SearchRequest} {session : SessionId} (p : Progress O) {w : World N}
    (h : ∀ c, (s.manager.transport.search session request w.net).1 = .ok c →
      s.manager.transport.Finite c (s.manager.transport.search session request w.net).2) :
    Searching.Halts (s.pass request session) p w := by
  have hstep : (liftM (s.manager.transport.start session request) : Searching N O _) p w =
    (((s.manager.transport.search session request w.net).1, p),
      (s.manager.transport.start session request w).2) := rfl
  cases ha : (s.manager.transport.search session request w.net).1 with
  | error f =>
    rw [ha] at hstep
    exact .step hstep .pure
  | ok c =>
    rw [ha] at hstep
    obtain ⟨e, p', w', hstream⟩ := s.halts_stream (h c ha) p
      (s.manager.transport.start session request w).2 rfl
    refine .step hstep (.bind hstream ?_)
    cases e with
    | exhausted => exact .step rfl .pure
    | cut e => exact .pure

theorem within_stream (c : CursorId) {fuel fuel' : Nat} (h : fuel ≤ fuel') :
    Searching.Within (s.stream c fuel) (s.stream c fuel') := by
  induction fuel generalizing fuel' with
  | zero => exact .unfinished _
  | succ fuel ih =>
    obtain ⟨fuel', rfl⟩ := Nat.exists_eq_add_of_le' (Nat.le_of_add_left_le h)
    have hle := Nat.le_of_succ_le_succ h
    refine .step fun a => ?_
    rcases a with f | (_ | (e | urls | _))
    · exact .refl _
    · exact .refl _
    · refine .step fun _ => ?_
      cases s.consumer.toObject e with
      | error err => exact .refl _
      | ok x =>
        refine .step fun more => ?_
        cases more with
        | true => exact ih hle
        | false => exact .refl _
    · exact ih hle
    · exact ih hle

theorem within_pass (request : SearchRequest) (session : SessionId) {fuel fuel' : Nat}
    (h : fuel ≤ fuel') :
    Searching.Within (s.pass request session fuel) (s.pass request session fuel') := by
  refine .step fun a => ?_
  cases a with
  | error f => exact .refl _
  | ok c => exact .bind (s.within_stream c h) rfl fun _ => .refl _

/-! ## Searches -/

theorem within_turn (base : Dn) (request : SearchRequest) (failures : UInt32) (conn : Connection)
    {fuel fuel' : Nat} (h : fuel ≤ fuel') :
    Searching.Within (s.turn base request fuel failures conn)
      (s.turn base request fuel' failures conn) := by
  refine .step fun p => ?_
  cases s.options.retry.allowsAttempt (p.attempts + 1) with
  | false => exact .refl _
  | true =>
    exact .step fun _ => .bind (s.within_pass request conn.session h) rfl fun _ => .refl _

theorem within_passes (base : Dn) (request : SearchRequest) (failures : UInt32)
    (conn : Connection) {fuel fuel' : Nat} (h : fuel ≤ fuel') :
    Searching.Within (s.passes base request fuel failures conn)
      (s.passes base request fuel' failures conn) := by
  induction fuel generalizing failures conn fuel' with
  | zero => exact .unfinished _
  | succ fuel ih =>
    obtain ⟨fuel', rfl⟩ := Nat.exists_eq_add_of_le' (Nat.le_of_add_left_le h)
    have hle := Nat.le_of_succ_le_succ h
    refine .bind (s.within_turn base request failures conn hle) rfl fun t => ?_
    cases t with
    | finished answer => exact .refl _
    | again failures conn => exact ih failures conn hle

/-- A larger bound gives the same answer. -/
theorem within_run (base : Dn) (filter : String) (scope : Scope) (attributes : List String)
    {fuel fuel' : Nat} (h : fuel ≤ fuel') :
    Searching.Within (s.run (N := N) base filter scope attributes fuel)
      (s.run base filter scope attributes fuel') := by
  refine .step fun _ => .step fun a => ?_
  cases a with
  | error e => exact .refl _
  | ok conn => exact s.within_passes base _ 0 conn h

end Search

end DirectoryClient
