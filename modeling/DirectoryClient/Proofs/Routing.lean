import DirectoryClient.Manager.Basic
import DirectoryClient.Proofs.Dn.Order
import Mathlib.Data.Set.Image

/-!
# Which server answers for a name

Chance decides among the candidates for a name, so what routing may answer is a set.

* `closestContext`          the scan ends with a context that holds the name and than which no other
                            such context is longer (`mem_closestContext`, `le_closestContext`);
* `Registry.IsClosest`      that property, said without the scan;
* `Registry.IsUnscoped`     a configured server without a context;
* `Registry.mem_candidates` who the candidates are;
* `Manager.answers`         the servers that are chosen for a name by some draw;
* `answers_spec`            what this set is, in every registry.
-/

namespace DirectoryClient

/-! ## The scan for the closest context -/

theorem mem_closestContext {d : Dn} (best : Option Dn) (cs : List Dn) (b : Dn)
    (hb : closestContext d best cs = some b) :
    best = some b ∨ (b ∈ cs ∧ b.Holds d) := by
  fun_induction closestContext d best cs with
  | case1 best => exact .inl hb
  | case2 best c rest hc =>
    obtain rfl := Option.some.inj hb
    exact .inr ⟨List.mem_cons_self, .inl hc⟩
  | case3 best c rest hc ha ih =>
    rw [Bool.and_eq_true] at ha
    rcases ih hb with h | ⟨hm, hh⟩
    · obtain rfl := Option.some.inj h
      exact .inr ⟨List.mem_cons_self, .inr ha.1⟩
    · exact .inr ⟨List.mem_cons_of_mem _ hm, hh⟩
  | case4 best c rest hc ha ih =>
    rcases ih hb with h | ⟨hm, hh⟩
    · exact .inl h
    · exact .inr ⟨List.mem_cons_of_mem _ hm, hh⟩

/-- No context that holds the name is longer than what the scan ends with; the best one so far is
above the name throughout. -/
theorem le_closestContext {d : Dn} (hd : d.isExtended = false) (best : Option Dn) (cs : List Dn)
    (habove : ∀ b, best = some b → b.isAncestorOf d = true) :
    ∀ c, (best = some c ∨ (c ∈ cs ∧ c.Holds d)) →
      ∃ b, closestContext d best cs = some b ∧ c.rdns.length ≤ b.rdns.length := by
  fun_induction closestContext d best cs with
  | case1 best =>
    rintro c (h | ⟨hm, -⟩)
    · exact ⟨c, h, Nat.le_refl _⟩
    · cases hm
  | case2 best x rest hx =>
    intro c hc
    have hcd : c.Holds d := hc.elim (fun h => .inr (habove c h)) (·.2)
    refine ⟨x, rfl, ?_⟩
    rw [Dn.rdns_of_same hx]
    exact Dn.length_le_of_holds hd hcd
  | case3 best x rest hx ha ih =>
    rw [Bool.and_eq_true] at ha
    obtain ⟨hxd, hbest⟩ := ha
    replace ih := ih fun b h => Option.some.inj h ▸ hxd
    rintro c (h | ⟨hm, hh⟩)
    · -- the best one so far lies above `x`
      have hcx : c.isAncestorOf x = true := by simpa [h, Dn.isDescendantOf] using hbest
      obtain ⟨b, hb, hle⟩ := ih x (.inl rfl)
      exact ⟨b, hb, Nat.le_trans (Nat.le_of_lt (Dn.isAncestorOf_iff.mp hcx).2.2.1) hle⟩
    · rcases List.mem_cons.mp hm with hcx | hm
      · exact ih c (.inl (congrArg some hcx.symm))
      · exact ih c (.inr ⟨hm, hh⟩)
  | case4 best x rest hx ha ih =>
    replace ih := ih habove
    rintro c (h | ⟨hm, hh⟩)
    · exact ih c (.inl h)
    · rcases List.mem_cons.mp hm with hcx | hm
      · -- `x` was passed over, so it does not lie below the best one so far
        subst hcx
        have hca : c.isAncestorOf d = true := hh.resolve_left hx
        obtain ⟨b, hb, hcb⟩ : ∃ b, best = some b ∧ c.isDescendantOf b = false := by
          cases hbest : best with
          | none => simp [hca, hbest] at ha
          | some b => exact ⟨b, rfl, by simpa [hca, hbest] using ha⟩
        obtain ⟨y, hy, hle⟩ := ih b (.inl hb)
        refine ⟨y, hy, Nat.le_trans (Nat.le_of_not_lt fun hlt => ?_) hle⟩
        rw [Dn.isDescendantOf_of_holds hd (.inr (habove b hb)) hh hlt] at hcb
        cases hcb
      · exact ih c (.inr ⟨hm, hh⟩)

namespace Registry

/-- a context of some server that holds the name, none of the others being longer -/
structure IsClosest (r : Registry) (d c : Dn) : Prop where
  mem : c ∈ r.contexts
  holds : c.Holds d
  longest : ∀ b ∈ r.contexts, b.Holds d → b.rdns.length ≤ c.rdns.length

/-- a configured server without a context -/
def IsUnscoped (r : Registry) (i : Nat) : Prop :=
  i < r.size ∧ (r.server i).record.baseContext = none ∧ (r.server i).record.origin = .configured

variable {r : Registry} {d : Dn}

theorem bestContext_isClosest (hd : d.isExtended = false) {b : Dn}
    (h : r.bestContext d = some b) : r.IsClosest d b := by
  obtain ⟨hm, hh⟩ := (mem_closestContext none r.contexts b h).resolve_left nofun
  refine ⟨hm, hh, fun c hc hcd => ?_⟩
  obtain ⟨b', hb', hle⟩ := le_closestContext hd none r.contexts nofun c (.inr ⟨hc, hcd⟩)
  obtain rfl := Option.some.inj (hb'.symm.trans h)
  exact hle

theorem bestContext_eq_none_iff (hd : d.isExtended = false) :
    r.bestContext d = none ↔ ∀ c ∈ r.contexts, ¬ c.Holds d := by
  constructor
  · intro h c hc hcd
    obtain ⟨b, hb, -⟩ := le_closestContext hd none r.contexts nofun c (.inr ⟨hc, hcd⟩)
    exact absurd (hb.symm.trans h) nofun
  · intro h
    cases hb : r.bestContext d with
    | none => rfl
    | some b => exact absurd (bestContext_isClosest hd hb).holds (h b (bestContext_isClosest hd hb).mem)

theorem exists_isClosest (hd : d.isExtended = false) (h : ∃ c ∈ r.contexts, c.Holds d) :
    ∃ b, r.IsClosest d b := by
  cases hb : r.bestContext d with
  | none =>
    obtain ⟨c, hc, hcd⟩ := h
    exact absurd hcd ((bestContext_eq_none_iff hd).mp hb c hc)
  | some b => exact ⟨b, bestContext_isClosest hd hb⟩

theorem IsClosest.same (hd : d.isExtended = false) {b c : Dn} (hb : r.IsClosest d b)
    (hc : r.IsClosest d c) : b.same c = true :=
  Dn.same_of_holds hd hb.holds hc.holds
    (Nat.le_antisymm (hc.longest b hb.mem hb.holds) (hb.longest c hc.mem hc.holds))

/-! ## Candidates -/

theorem mem_candidates {i : Nat} : i ∈ r.candidates d ↔
    i < r.size ∧ isCandidate (r.bestContext d) (r.server i).record = true := by
  simp [candidates]

theorem sameContext_congr {x : Option Dn} {b c : Dn} (h : b.same c = true) :
    sameContext x (some b) = sameContext x (some c) := by
  cases x with
  | none => rfl
  | some a =>
    rw [sameContext, sameContext, Bool.eq_iff_iff]
    exact ⟨fun ha => Dn.same_trans ha h, fun ha => Dn.same_trans ha (Dn.same_comm b c ▸ h)⟩

theorem mem_candidates_of_isClosest (hd : d.isExtended = false) {b : Dn} (hb : r.IsClosest d b)
    {i : Nat} : i ∈ r.candidates d ↔
      i < r.size ∧ sameContext (r.server i).record.baseContext (some b) = true := by
  cases hc : r.bestContext d with
  | none => exact absurd hb.holds ((bestContext_eq_none_iff hd).mp hc b hb.mem)
  | some c =>
    rw [mem_candidates, hc, isCandidate,
      sameContext_congr ((bestContext_isClosest hd hc).same hd hb)]

theorem mem_candidates_of_unheld (hd : d.isExtended = false)
    (h : ∀ c ∈ r.contexts, ¬ c.Holds d) {i : Nat} : i ∈ r.candidates d ↔ r.IsUnscoped i := by
  rw [mem_candidates, (bestContext_eq_none_iff hd).mpr h, IsUnscoped]
  cases ho : (r.server i).record.origin <;> simp [isCandidate, ServerRecord.isReferral, ho]

/-! ## Draws -/

theorem route_of_not_isQualified (h : d.isQualified = false) (draw : Nat) : r.route d draw = 0 := by
  simp [route, h]

theorem route_of_candidates_eq_nil (h : r.candidates d = []) (draw : Nat) :
    r.route d draw = 0 := by
  simp [route, h]

/-- Every candidate is chosen by the draw of its position among the candidates. -/
theorem exists_route_eq_iff (hq : d.isQualified = true) (hne : r.candidates d ≠ []) {i : Nat} :
    (∃ draw, r.route d draw = i) ↔ i ∈ r.candidates d := by
  have hpos : 0 < (r.candidates d).length := List.length_pos_iff.mpr hne
  constructor
  · rintro ⟨draw, rfl⟩
    have hlt : draw % (r.candidates d).length < (r.candidates d).length := Nat.mod_lt _ hpos
    simp only [route, hq, if_true, List.getElem?_eq_getElem hlt, Option.getD_some]
    exact List.getElem_mem hlt
  · intro hi
    obtain ⟨k, hk, rfl⟩ := List.getElem_of_mem hi
    refine ⟨k, ?_⟩
    simp only [route, hq, if_true, Nat.mod_eq_of_lt hk, List.getElem?_eq_getElem hk,
      Option.getD_some]

theorem size_pos : 0 < r.size := Nat.succ_pos _

theorem route_lt_size (draw : Nat) : r.route d draw < r.size := by
  cases hq : d.isQualified with
  | false => rw [route_of_not_isQualified hq]; exact size_pos
  | true =>
    by_cases hne : r.candidates d = []
    · rw [route_of_candidates_eq_nil hne]; exact size_pos
    · exact (mem_candidates.mp ((exists_route_eq_iff hq hne).mp ⟨draw, rfl⟩)).1

end Registry

namespace Registry

variable {r r' : Registry} {d : Dn}

theorem mem_records_iff {x : ServerRecord} :
    x ∈ r.records ↔ ∃ i < r.size, (r.server i).record = x := by
  constructor
  · intro hx
    obtain ⟨s, hs, rfl⟩ := List.mem_map.mp hx
    obtain ⟨i, hi, rfl⟩ := List.getElem_of_mem hs
    exact ⟨i, hi, by rw [server, List.getElem?_eq_getElem hi, Option.getD_some]⟩
  · rintro ⟨i, hi, rfl⟩
    rw [server, List.getElem?_eq_getElem hi, Option.getD_some]
    exact List.mem_map_of_mem (List.getElem_mem hi)

theorem mem_contexts_of_perm (hp : r'.records.Perm r.records) {c : Dn} :
    c ∈ r'.contexts ↔ c ∈ r.contexts := (hp.filterMap _).mem_iff

theorem IsClosest.of_perm (hp : r'.records.Perm r.records) {b : Dn} (hb : r.IsClosest d b) :
    r'.IsClosest d b where
  mem := (mem_contexts_of_perm hp).mpr hb.mem
  holds := hb.holds
  longest c hc := hb.longest c ((mem_contexts_of_perm hp).mp hc)

/-- a server with the same record in a registry with the same records -/
theorem exists_server_of_perm (hp : r'.records.Perm r.records) {i : Nat} (hi : i < r.size) :
    ∃ j < r'.size, (r'.server j).record = (r.server i).record :=
  mem_records_iff.mp (hp.mem_iff.mpr (mem_records_iff.mpr ⟨i, hi, rfl⟩))

theorem exists_isUnscoped_of_perm (hp : r'.records.Perm r.records) {i : Nat}
    (hi : r.IsUnscoped i) : ∃ j, r'.IsUnscoped j ∧ (r'.server j).record = (r.server i).record := by
  obtain ⟨j, hj, he⟩ := exists_server_of_perm hp hi.1
  exact ⟨j, ⟨hj, by rw [he]; exact hi.2.1, by rw [he]; exact hi.2.2⟩, he⟩

end Registry

namespace Manager

variable {N : Type} {d : Dn} {w w' : World N}

/-- the servers that are chosen for a name if chance has it so -/
def answers (d : Dn) (w : World N) : Set Nat :=
  {i | ∃ chance, (select d { w with chance }).1 = i}

/-- the records of these servers -/
def answerRecords (d : Dn) (w : World N) : Set ServerRecord :=
  {x | ∃ i ∈ answers d w, (w.registry.server i).record = x}

theorem mem_answers_iff {i : Nat} : i ∈ answers d w ↔ ∃ draw, w.registry.route d draw = i := by
  constructor
  · rintro ⟨chance, h⟩
    exact ⟨chance w.drawn, h⟩
  · rintro ⟨draw, h⟩
    exact ⟨fun _ => draw, h⟩

theorem answers_eq_zero (h : ∀ draw, w.registry.route d draw = 0) : answers d w = {0} := by
  ext i
  rw [mem_answers_iff, Set.mem_singleton_iff]
  constructor
  · rintro ⟨draw, rfl⟩
    exact h draw
  · rintro rfl
    exact ⟨0, h 0⟩

theorem answers_of_not_isQualified (h : d.isQualified = false) : answers d w = {0} :=
  answers_eq_zero (Registry.route_of_not_isQualified h)

theorem answers_of_isClosest (hq : d.isQualified = true) {b : Dn}
    (hb : w.registry.IsClosest d b) : answers d w = {i | i < w.registry.size ∧
      sameContext (w.registry.server i).record.baseContext (some b) = true} := by
  have hd := Dn.isExtended_of_isQualified hq
  have hne : w.registry.candidates d ≠ [] := by
    obtain ⟨x, hx, hxb⟩ := List.mem_filterMap.mp hb.mem
    obtain ⟨i, hi, rfl⟩ := Registry.mem_records_iff.mp hx
    refine List.ne_nil_of_mem ((Registry.mem_candidates_of_isClosest hd hb (i := i)).mpr ⟨hi, ?_⟩)
    rw [hxb]
    exact Dn.same_refl b
  ext i
  rw [mem_answers_iff, Registry.exists_route_eq_iff hq hne,
    Registry.mem_candidates_of_isClosest hd hb, Set.mem_ofPred_eq]

theorem answers_of_isUnscoped (hq : d.isQualified = true)
    (h : ∀ c ∈ w.registry.contexts, ¬ c.Holds d) (hu : ∃ i, w.registry.IsUnscoped i) :
    answers d w = {i | w.registry.IsUnscoped i} := by
  have hd := Dn.isExtended_of_isQualified hq
  obtain ⟨k, hk⟩ := hu
  have hne : w.registry.candidates d ≠ [] :=
    List.ne_nil_of_mem ((Registry.mem_candidates_of_unheld hd h).mpr hk)
  ext i
  rw [mem_answers_iff, Registry.exists_route_eq_iff hq hne, Registry.mem_candidates_of_unheld hd h,
    Set.mem_ofPred_eq]

theorem answers_of_no_server (hq : d.isQualified = true)
    (h : ∀ c ∈ w.registry.contexts, ¬ c.Holds d) (hu : ∀ i, ¬ w.registry.IsUnscoped i) :
    answers d w = {0} := by
  refine answers_eq_zero (Registry.route_of_candidates_eq_nil ?_)
  refine List.eq_nil_iff_forall_not_mem.mpr fun i hi => hu i ?_
  exact (Registry.mem_candidates_of_unheld (Dn.isExtended_of_isQualified hq) h).mp hi

/-! ## The order of the servers -/

theorem answerRecords_subset (hf : w'.registry.first.record = w.registry.first.record)
    (hp : w'.registry.records.Perm w.registry.records) :
    answerRecords d w ⊆ answerRecords d w' := by
  have hzero (h : answers d w' = {0}) : w.registry.first.record ∈ answerRecords d w' :=
    ⟨0, by rw [h]; rfl, hf⟩
  rintro x ⟨i, hi, rfl⟩
  cases hq : d.isQualified with
  | false =>
    rw [answers_of_not_isQualified hq, Set.mem_singleton_iff] at hi
    rw [hi]
    exact hzero (answers_of_not_isQualified hq)
  | true =>
    by_cases hh : ∃ c ∈ w.registry.contexts, c.Holds d
    · obtain ⟨b, hb⟩ := Registry.exists_isClosest (Dn.isExtended_of_isQualified hq) hh
      rw [answers_of_isClosest hq hb] at hi
      obtain ⟨j, hj, he⟩ := Registry.exists_server_of_perm hp hi.1
      refine ⟨j, ?_, he⟩
      rw [answers_of_isClosest hq (hb.of_perm hp)]
      exact ⟨hj, by rw [he]; exact hi.2⟩
    · have hn : ∀ c ∈ w.registry.contexts, ¬ c.Holds d := fun c hc hcd => hh ⟨c, hc, hcd⟩
      have hn' : ∀ c ∈ w'.registry.contexts, ¬ c.Holds d := fun c hc =>
        hn c ((Registry.mem_contexts_of_perm hp).mp hc)
      by_cases hu : ∃ i, w.registry.IsUnscoped i
      · rw [answers_of_isUnscoped hq hn hu] at hi
        obtain ⟨j, hj, he⟩ := Registry.exists_isUnscoped_of_perm hp hi
        refine ⟨j, ?_, he⟩
        rw [answers_of_isUnscoped hq hn' ⟨j, hj⟩]
        exact hj
      · have hu' : ∀ i, ¬ w'.registry.IsUnscoped i := fun i h => hu <| by
          obtain ⟨j, hj, -⟩ := Registry.exists_isUnscoped_of_perm hp.symm h
          exact ⟨j, hj⟩
        rw [answers_of_no_server hq hn fun i h => hu ⟨i, h⟩, Set.mem_singleton_iff] at hi
        rw [hi]
        exact hzero (answers_of_no_server hq hn' hu')

/-- **Who answers for a name.**  Names that are not qualified go to the default server.  If some
context holds the name, the servers with the longest such context answer, all of them and nobody
else; otherwise the configured servers without a context, and the default server if there are
none.  Every answer is a server of the registry, and their records do not depend on the order in
which the servers stand there. -/
theorem answers_spec (d : Dn) (w : World N) :
    (∀ i ∈ answers d w, i < w.registry.size) ∧
    (d.isQualified = false → answers d w = {0}) ∧
    (d.isQualified = true →
      ((∃ c ∈ w.registry.contexts, c.Holds d) → ∃ b, w.registry.IsClosest d b) ∧
      (∀ b, w.registry.IsClosest d b → answers d w = {i | i < w.registry.size ∧
        sameContext (w.registry.server i).record.baseContext (some b) = true}) ∧
      ((∀ c ∈ w.registry.contexts, ¬ c.Holds d) →
        ((∃ i, w.registry.IsUnscoped i) → answers d w = {i | w.registry.IsUnscoped i}) ∧
        ((∀ i, ¬ w.registry.IsUnscoped i) → answers d w = {0}))) ∧
    ∀ w' : World N, w'.registry.first.record = w.registry.first.record →
      w'.registry.records.Perm w.registry.records → answerRecords d w' = answerRecords d w := by
  refine ⟨?_, answers_of_not_isQualified, fun hq => ⟨?_, ?_, ?_⟩, ?_⟩
  · rintro i ⟨chance, rfl⟩
    exact Registry.route_lt_size _
  · exact Registry.exists_isClosest (Dn.isExtended_of_isQualified hq)
  · exact fun b hb => answers_of_isClosest hq hb
  · exact fun h => ⟨answers_of_isUnscoped hq h, answers_of_no_server hq h⟩
  · exact fun w' hf hp => (answerRecords_subset hf.symm hp.symm).antisymm (answerRecords_subset hf hp)

end Manager

end DirectoryClient
