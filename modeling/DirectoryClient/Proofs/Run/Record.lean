import DirectoryClient.Proofs.Run.Move

/-!
# What computations leave in the record

* `Act.Leaves`         the answer of a computation and the events that it adds, newest first;
* `Searching.Leaves`   the same with progress;
* `Leaves.bind`        one computation after another;
* `Between`            the events of finding a server and connecting it (`leaves_of_follows`).
-/

namespace DirectoryClient

open Relation

section
variable {N O α β : Type}

/-- what holds of the answer and of the new events, whatever the world -/
def Act.Leaves (x : Act N α) (R : α → List Event → Prop) : Prop :=
  ∀ w, ∃ new, (x w).2.log = new ++ w.log ∧ R (x w).1 new

namespace Act.Leaves

variable {x : Act N α} {R R' : α → List Event → Prop}

theorem mono (hx : x.Leaves R) (h : ∀ a l, R a l → R' a l) : x.Leaves R' := by
  intro w
  obtain ⟨new, hlog, hr⟩ := hx w
  exact ⟨new, hlog, h _ _ hr⟩

theorem pure {a : α} (h : R a []) : Act.Leaves (Pure.pure a : Act N α) R := fun _ => ⟨[], rfl, h⟩

theorem bind {f : α → Act N β} {R : β → List Event → Prop}
    (h : x.Leaves fun a l => (f a).Leaves fun b l' => R b (l' ++ l)) :
    Act.Leaves (x >>= f) R := by
  intro w
  obtain ⟨l, hlog, hf⟩ := h w
  obtain ⟨l', hlog', hr⟩ := hf (x w).2
  refine ⟨l' ++ l, ?_, hr⟩
  rw [Act.bind_apply, hlog', hlog, List.append_assoc]

theorem call {act : N → α × N} {note : α → Event} (h : ∀ a, R a [note a]) :
    Act.Leaves (World.call act note) R := fun _ => ⟨[_], rfl, h _⟩

theorem record {e : Event} {R : Unit → List Event → Prop} (h : R () [e]) :
    Act.Leaves (World.record e : Act N Unit) R := fun _ => ⟨[e], rfl, h⟩

/-- a question about the world -/
theorem ask {g : World N → α} (h : ∀ a, R a []) : Act.Leaves (fun w => (g w, w)) R :=
  fun _ => ⟨[], rfl, h _⟩

end Act.Leaves

def Searching.Leaves (x : Searching N O α) (p : Progress O)
    (R : α → Progress O → List Event → Prop) : Prop :=
  ∀ w, ∃ new, (x p w).2.log = new ++ w.log ∧ R (x p w).1.1 (x p w).1.2 new

namespace Searching.Leaves

variable {x : Searching N O α} {p : Progress O} {R R' : α → Progress O → List Event → Prop}

theorem mono (hx : Searching.Leaves x p R) (h : ∀ a p' l, R a p' l → R' a p' l) :
    Searching.Leaves x p R' := by
  intro w
  obtain ⟨new, hlog, hr⟩ := hx w
  exact ⟨new, hlog, h _ _ _ hr⟩

theorem pure {a : α} (h : R a p []) : Searching.Leaves (Pure.pure a : Searching N O α) p R :=
  fun _ => ⟨[], rfl, h⟩

theorem bind {f : α → Searching N O β} {R : β → Progress O → List Event → Prop}
    (h : Searching.Leaves x p fun a p' l =>
      Searching.Leaves (f a) p' fun b p'' l' => R b p'' (l' ++ l)) :
    Searching.Leaves (x >>= f) p R := by
  intro w
  obtain ⟨l, hlog, hf⟩ := h w
  obtain ⟨l', hlog', hr⟩ := hf (x p w).2
  refine ⟨l' ++ l, ?_, hr⟩
  have hb : ((x >>= f) p w).2.log = (f (x p w).1.1 (x p w).1.2 (x p w).2).2.log := rfl
  rw [hb, hlog', hlog, List.append_assoc]

theorem lift {x : Act N α} (hx : x.Leaves fun a l => R a p l) :
    Searching.Leaves (liftM x : Searching N O α) p R := fun w => hx w

theorem modify {f : Progress O → Progress O} {R : Unit → Progress O → List Event → Prop}
    (h : R () (f p) []) : Searching.Leaves (modify f : Searching N O Unit) p R :=
  fun _ => ⟨[], rfl, h⟩

theorem get {R : Progress O → Progress O → List Event → Prop} (h : R p p []) :
    Searching.Leaves (get : Searching N O (Progress O)) p R := fun _ => ⟨[], rfl, h⟩

theorem of_eq (hx : Searching.Leaves x p R) {w w' : World N} {a : α} {p' : Progress O}
    (h : x p w = ((a, p'), w')) : ∃ new, w'.log = new ++ w.log ∧ R a p' new := by
  have hw := hx w
  rwa [h] at hw

end Searching.Leaves

end

/-! ## Between passes -/

/-- an event that finding a server, connecting it or waiting leaves -/
def Event.IsBetween : Event → Prop
  | .routed _ _ | .located _ _ | .connect _ _ _ | .bind _ _ _ | .close _ _ | .pause _ _ => True
  | _ => False

def Between (l : List Event) : Prop := ∀ e ∈ l, e.IsBetween

theorem Between.nil : Between [] := List.forall_mem_nil _

theorem Between.single {e : Event} (h : e.IsBetween) : Between [e] :=
  fun _ he => List.mem_singleton.mp he ▸ h

theorem Between.append {l l' : List Event} (h : Between l) (h' : Between l') :
    Between (l ++ l') := fun e he => (List.mem_append.mp he).elim (h e) (h' e)

theorem Between.reverse {l : List Event} (h : Between l) : Between l.reverse :=
  fun e he => h e (List.mem_reverse.mp he)

namespace Manager

variable {N α : Type} {m : Manager N}

theorem Connecting.between {i : Nat} {w w' : World N} {answer : Except ClientError SessionId}
    (h : m.Connecting i w answer w') : ∃ new, w'.log = new ++ w.log ∧ Between new := by
  obtain ⟨new, hlog, hnew⟩ := h.exists_log
  refine ⟨new, hlog, fun e he => ?_⟩
  rcases hnew e he with rfl | ⟨s, rfl⟩ | ⟨s, a, rfl⟩ <;> trivial

theorem Move.between {w w' : World N} (h : m.Move w w') :
    ∃ new, w'.log = new ++ w.log ∧ Between new := by
  cases h with
  | draw => exact ⟨[], rfl, .nil⟩
  | choose d => exact ⟨[_], rfl, .single trivial⟩
  | locate url => exact ⟨[_], rfl, .single trivial⟩
  | attach i _ hi => exact (m.connectServer_spec i w).between
  | detach i _ hi =>
    rcases m.closeServer_cases i w with ⟨-, hw⟩ | ⟨s, -, hw⟩ <;> rw [hw]
    · exact ⟨[], rfl, .nil⟩
    · exact ⟨[_], rfl, .single trivial⟩
  | hangUp s => exact ⟨[_], rfl, .single trivial⟩
  | pause retry length => exact ⟨[_], rfl, .single trivial⟩

theorem leaves_of_follows {x : Act N α} (hx : x.Follows m.Move) :
    x.Leaves fun _ l => Between l := by
  intro w
  have h := hx w
  show ∃ new, (x w).2.log = new ++ w.log ∧ Between new
  generalize (x w).2 = w' at h ⊢
  induction h with
  | refl => exact ⟨[], rfl, .nil⟩
  | tail _ hs ih =>
    obtain ⟨l, hl, hb⟩ := ih
    obtain ⟨l', hl', hb'⟩ := hs.between
    exact ⟨l' ++ l, by rw [hl', hl, List.append_assoc], hb'.append hb⟩

end Manager

end DirectoryClient
