import DirectoryClient.Proofs.Secrecy.World

/-!
# Networks that differ in URLs alone

Servers send URLs in two places: in the result at the end of a search and in references among its
responses.  Two networks are asked the same and answer alike, but for these URLs.

* `LdapResult.UpToUrls`, `Response.UpToUrls`, ...   what differs in URLs at most;
* `Transport.AgreesUpToUrls`   two networks whose answers do;
* `Event.UpToUrls`             two lines of the records;
* `World.UpToUrls`             two worlds in which the same has happened but for URLs;
* `Act.UpToUrls`               computations that keep worlds like this and give related answers;
* `Searching.UpToUrls`         the same with progress, which is the same on both sides;
* `Transport.rewriting`        the same network with other URLs (`agreesUpToUrls_rewriting`).
-/

namespace DirectoryClient

/-! ## What is sent -/

inductive LdapResult.UpToUrls : LdapResult → LdapResult → Prop
  | intro (r : LdapResult) (urls : List String) : UpToUrls r { r with urls := urls }

/-- A failure may carry a result. -/
inductive Failure.UpToUrls : Failure → Failure → Prop
  | same (f : Failure) : UpToUrls f f
  | result {r r' : LdapResult} (h : r.UpToUrls r') : UpToUrls (.result r) (.result r')

inductive Response.UpToUrls : Response → Response → Prop
  | same (x : Response) : UpToUrls x x
  | reference (urls urls' : List String) : UpToUrls (.reference urls) (.reference urls')

/-- both fail, or both succeed with related values -/
inductive AnswersUpToUrls {α β : Type} (A : α → β → Prop) :
    Except Failure α → Except Failure β → Prop
  | error {f f' : Failure} (h : f.UpToUrls f') : AnswersUpToUrls A (.error f) (.error f')
  | ok {a : α} {b : β} (h : A a b) : AnswersUpToUrls A (.ok a) (.ok b)

inductive PassEnd.UpToUrls : PassEnd → PassEnd → Prop
  | same (e : PassEnd) : UpToUrls e e
  | ended {r r' : Option LdapResult} (h : Option.Rel LdapResult.UpToUrls r r') :
      UpToUrls (.ended r) (.ended r')
  | failed {f f' : Failure} (h : f.UpToUrls f') : UpToUrls (.failed f) (.failed f')

inductive StreamEnd.UpToUrls : StreamEnd → StreamEnd → Prop
  | exhausted : UpToUrls .exhausted .exhausted
  | cut {e e' : PassEnd} (h : e.UpToUrls e') : UpToUrls (.cut e) (.cut e')

inductive Event.UpToUrls : Event → Event → Prop
  | same (e : Event) : UpToUrls e e
  | search (s : SessionId) (request : SearchRequest) {a a' : Except Failure CursorId}
      (h : AnswersUpToUrls Eq a a') : UpToUrls (.search s request a) (.search s request a')
  | next (c : CursorId) {a a' : Except Failure (Option Response)}
      (h : AnswersUpToUrls (Option.Rel Response.UpToUrls) a a') : UpToUrls (.next c a) (.next c a')
  | finish (c : CursorId) {a a' : Option LdapResult} (h : Option.Rel LdapResult.UpToUrls a a') :
      UpToUrls (.finish c a) (.finish c a')
  | passed {e e' : PassEnd} (h : e.UpToUrls e') : UpToUrls (.passed e) (.passed e')

/-- The referral that is remembered may differ. -/
inductive Progress.UpToUrls {O : Type} : Progress O → Progress O → Prop
  | intro (p : Progress O) (last : Option Referral) : UpToUrls p { p with lastReferral := last }

theorem Progress.UpToUrls.refl {O : Type} (p : Progress O) : p.UpToUrls p := .intro p p.lastReferral

theorem Progress.UpToUrls.eq_of_lastReferral {O : Type} {p p' : Progress O} (h : p.UpToUrls p')
    (hl : p.lastReferral = p'.lastReferral) : p = p' := by
  cases h with
  | intro last =>
    subst hl
    rfl

section
variable {N N' O α β γ δ : Type} {R : N → N' → Prop}

/-! ## Networks -/

/-- related answers, and states that are still related -/
def RelatedAnswer (A : α → β → Prop) (R : N → N' → Prop) (a : α × N) (b : β × N') : Prop :=
  A a.1 b.1 ∧ R a.2 b.2

/-- In states that `R` relates, both networks give the same answers but for the URLs in them. -/
structure Transport.AgreesUpToUrls (R : N → N' → Prop) (t : Transport N) (t' : Transport N') :
    Prop where
  connect {n : N} {n' : N'} (h : R n n') (settings : Settings) :
    SameAnswer R (t.connect settings n) (t'.connect settings n')
  bind {n : N} {n' : N'} (h : R n n') (s : SessionId) (request : BindRequest) :
    SameAnswer R (t.bind s request n) (t'.bind s request n')
  search {n : N} {n' : N'} (h : R n n') (s : SessionId) (request : SearchRequest) :
    RelatedAnswer (AnswersUpToUrls Eq) R (t.search s request n) (t'.search s request n')
  isConnected {n : N} {n' : N'} (h : R n n') (s : SessionId) :
    t.isConnected s n = t'.isConnected s n'
  close {n : N} {n' : N'} (h : R n n') (s : SessionId) :
    SameAnswer R (t.close s n) (t'.close s n')
  next {n : N} {n' : N'} (h : R n n') (c : CursorId) :
    RelatedAnswer (AnswersUpToUrls (Option.Rel Response.UpToUrls)) R (t.next c n) (t'.next c n')
  finish {n : N} {n' : N'} (h : R n n') (c : CursorId) :
    RelatedAnswer (Option.Rel LdapResult.UpToUrls) R (t.finish c n) (t'.finish c n')
  isDone {n : N} {n' : N'} (h : R n n') (c : CursorId) : t.isDone c n = t'.isDone c n'
  abandon {n : N} {n' : N'} (h : R n n') (c : CursorId) :
    SameAnswer R (t.abandon c n) (t'.abandon c n')
  cancel {n : N} {n' : N'} (h : R n n') (c : CursorId) : R (t.cancel c n) (t'.cancel c n')

/-! ## Worlds -/

structure World.UpToUrls (R : N → N' → Prop) (w : World N) (w' : World N') : Prop where
  net : R w.net w'.net
  registry : w.registry = w'.registry
  chance : w.chance = w'.chance
  drawn : w.drawn = w'.drawn
  log : List.Forall₂ Event.UpToUrls w.log w'.log

theorem World.UpToUrls.refl (w : World N) : w.UpToUrls Eq w where
  net := rfl
  registry := rfl
  chance := rfl
  drawn := rfl
  log := List.forall₂_same.mpr fun e _ => .same e

/-! ## Computations -/

/-- Worlds stay alike up to URLs, and `A` relates the answers. -/
def Act.UpToUrls (R : N → N' → Prop) (A : α → β → Prop) (x : Act N α) (y : Act N' β) : Prop :=
  ∀ w w', World.UpToUrls R w w' → A (x w).1 (y w').1 ∧ World.UpToUrls R (x w).2 (y w').2

namespace Act.UpToUrls

variable {A : α → β → Prop} {B : γ → δ → Prop} {x : Act N α} {y : Act N' β}

theorem pure {a : α} {b : β} (h : A a b) :
    Act.UpToUrls R A (Pure.pure a : Act N α) (Pure.pure b : Act N' β) := fun _ _ hw => ⟨h, hw⟩

theorem bind {f : α → Act N γ} {g : β → Act N' δ} (hx : Act.UpToUrls R A x y)
    (hf : ∀ a b, A a b → Act.UpToUrls R B (f a) (g b)) :
    Act.UpToUrls R B (x >>= f) (y >>= g) := by
  intro w w' hw
  obtain ⟨ha, hw⟩ := hx w w' hw
  exact hf _ _ ha _ _ hw

/-- After the same answer on both sides. -/
theorem next {y : Act N' α} {f : α → Act N γ} {g : α → Act N' δ} (hx : Act.UpToUrls R Eq x y)
    (hf : ∀ a, Act.UpToUrls R B (f a) (g a)) : Act.UpToUrls R B (x >>= f) (y >>= g) := by
  refine hx.bind fun a b hab => ?_
  subst hab
  exact hf a

/-- a question about the world -/
theorem ask {f : World N → α} {g : World N' → β}
    (h : ∀ w w', World.UpToUrls R w w' → A (f w) (g w')) :
    Act.UpToUrls R A (fun w => (f w, w)) (fun w => (g w, w)) := fun _ _ hw => ⟨h _ _ hw, hw⟩

theorem record {e e' : Event} (h : e.UpToUrls e') :
    Act.UpToUrls R Eq (World.record e : Act N Unit) (World.record e' : Act N' Unit) :=
  fun _ _ hw => ⟨rfl, { hw with log := hw.log.cons h }⟩

theorem draw : Act.UpToUrls R Eq (World.draw : Act N Nat) (World.draw : Act N' Nat) := by
  intro w w' hw
  have hdraw : w.chance w.drawn = w'.chance w'.drawn := by rw [hw.chance, hw.drawn]
  exact ⟨hdraw, { hw with drawn := congrArg (· + 1) hw.drawn }⟩

theorem call {act : N → α × N} {act' : N' → β × N'} {note : α → Event} {note' : β → Event}
    (h : ∀ n n', R n n' → RelatedAnswer A R (act n) (act' n'))
    (hnote : ∀ a b, A a b → (note a).UpToUrls (note' b)) :
    Act.UpToUrls R A (World.call act note) (World.call act' note') := by
  intro w w' hw
  obtain ⟨ha, hnet⟩ := h _ _ hw.net
  exact ⟨ha, { hw with net := hnet, log := hw.log.cons (hnote _ _ ha) }⟩

/-- a call with the same answer on both sides -/
theorem same {act : N → α × N} {act' : N' → α × N'} (note : α → Event)
    (h : ∀ n n', R n n' → SameAnswer R (act n) (act' n')) :
    Act.UpToUrls R Eq (World.call act note) (World.call act' note) := by
  refine .call h fun a b hab => ?_
  subst hab
  exact .same _

theorem pause (p : RetryPolicy) (retry : UInt32) :
    Act.UpToUrls R Eq (World.pause p retry : Act N Unit) (World.pause p retry : Act N' Unit) :=
  draw.next fun _ => record (.same _)

end Act.UpToUrls

/-- Related answers, and the same progress on both sides. -/
def Searching.UpToUrls (R : N → N' → Prop) (A : α → β → Prop) (x : Searching N O α)
    (y : Searching N' O β) : Prop :=
  ∀ p, Act.UpToUrls R (fun a b => A a.1 b.1 ∧ a.2 = b.2) (x p) (y p)

namespace Searching.UpToUrls

variable {A : α → β → Prop} {B : γ → δ → Prop} {x : Searching N O α} {y : Searching N' O β}

theorem pure {a : α} {b : β} (h : A a b) :
    Searching.UpToUrls R A (Pure.pure a : Searching N O α) (Pure.pure b : Searching N' O β) :=
  fun _ => Act.UpToUrls.pure ⟨h, rfl⟩

theorem bind {f : α → Searching N O γ} {g : β → Searching N' O δ}
    (hx : Searching.UpToUrls R A x y) (hf : ∀ a b, A a b → Searching.UpToUrls R B (f a) (g b)) :
    Searching.UpToUrls R B (x >>= f) (y >>= g) := by
  intro p w w' hw
  obtain ⟨⟨ha, hp⟩, hw⟩ := hx p w w' hw
  have hrest := hf _ _ ha (x p w).1.2 _ _ hw
  have hy : (y >>= g) p w' = g (y p w').1.1 (y p w').1.2 (y p w').2 := rfl
  rw [hy, ← hp]
  exact hrest

theorem next {y : Searching N' O α} {f : α → Searching N O γ} {g : α → Searching N' O δ}
    (hx : Searching.UpToUrls R Eq x y) (hf : ∀ a, Searching.UpToUrls R B (f a) (g a)) :
    Searching.UpToUrls R B (x >>= f) (y >>= g) := by
  refine hx.bind fun a b hab => ?_
  subst hab
  exact hf a

theorem lift {x : Act N α} {y : Act N' β} (h : Act.UpToUrls R A x y) :
    Searching.UpToUrls R A (liftM x : Searching N O α) (liftM y : Searching N' O β) := by
  intro p w w' hw
  obtain ⟨ha, hw⟩ := h w w' hw
  exact ⟨⟨ha, rfl⟩, hw⟩

theorem modify (f : Progress O → Progress O) :
    Searching.UpToUrls R Eq (modify f : Searching N O Unit) (modify f : Searching N' O Unit) :=
  fun _ => Act.UpToUrls.pure ⟨rfl, rfl⟩

theorem get : Searching.UpToUrls R Eq (get : Searching N O (Progress O))
    (get : Searching N' O (Progress O)) := fun _ => Act.UpToUrls.pure ⟨rfl, rfl⟩

end Searching.UpToUrls

/-! ## Calls of the network -/

namespace Transport.AgreesUpToUrls

variable {t : Transport N} {t' : Transport N'} (h : t.AgreesUpToUrls R t')
include h

theorem dial (server : Nat) (settings : Settings) :
    Act.UpToUrls R Eq (t.dial server settings) (t'.dial server settings) :=
  .same _ fun _ _ hn => h.connect hn settings

theorem login (s : SessionId) (request : BindRequest) :
    Act.UpToUrls R Eq (t.login s request) (t'.login s request) :=
  .same _ fun _ _ hn => h.bind hn s request

theorem start (s : SessionId) (request : SearchRequest) :
    Act.UpToUrls R (AnswersUpToUrls Eq) (t.start s request) (t'.start s request) :=
  .call (fun _ _ hn => h.search hn s request) fun _ _ ha => .search s request ha

theorem hangUp (s : SessionId) : Act.UpToUrls R Eq (t.hangUp s) (t'.hangUp s) :=
  .same _ fun _ _ hn => h.close hn s

theorem advance (c : CursorId) :
    Act.UpToUrls R (AnswersUpToUrls (Option.Rel Response.UpToUrls)) (t.advance c) (t'.advance c) :=
  .call (fun _ _ hn => h.next hn c) fun _ _ ha => .next c ha

theorem terminal (c : CursorId) :
    Act.UpToUrls R (Option.Rel LdapResult.UpToUrls) (t.terminal c) (t'.terminal c) :=
  .call (fun _ _ hn => h.finish hn c) fun _ _ ha => .finish c ha

theorem giveUp (c : CursorId) : Act.UpToUrls R Eq (t.giveUp c) (t'.giveUp c) :=
  .same _ fun _ _ hn => h.abandon hn c

theorem cancelNow (c : CursorId) : Act.UpToUrls R Eq (t.cancelNow c) (t'.cancelNow c) :=
  .same _ fun _ _ hn => ⟨rfl, h.cancel hn c⟩

theorem ended (c : CursorId) : Act.UpToUrls R Eq (t.ended c) (t'.ended c) :=
  .ask fun _ _ hw => h.isDone hw.net c

theorem release (c : CursorId) : Act.UpToUrls R Eq (t.release c) (t'.release c) := by
  refine (h.ended c).next fun done => ?_
  cases done with
  | true => exact .pure rfl
  | false => exact (h.giveUp c).next fun _ => .pure rfl

theorem discard (c : CursorId) : Act.UpToUrls R Eq (t.discard c) (t'.discard c) := by
  refine (h.ended c).next fun done => ?_
  cases done with
  | true => exact .pure rfl
  | false => exact h.cancelNow c

end Transport.AgreesUpToUrls

/-! ## The same network with other URLs -/

def LdapResult.rewriting (f : List String → List String) (r : LdapResult) : LdapResult :=
  { r with urls := f r.urls }

def Failure.rewriting (f : List String → List String) : Failure → Failure
  | .result r => .result (r.rewriting f)
  | x => x

def Response.rewriting (f : List String → List String) : Response → Response
  | .reference urls => .reference (f urls)
  | x => x

/-- the same network, where searches yield other URLs -/
def Transport.rewriting (f : List String → List String) (t : Transport N) : Transport N :=
  { t with
    search := fun s request n =>
      let (a, n) := t.search s request n
      (a.mapError (·.rewriting f), n)
    next := fun c n =>
      let (a, n) := t.next c n
      ((a.mapError (·.rewriting f)).map (·.map (·.rewriting f)), n)
    finish := fun c n =>
      let (r, n) := t.finish c n
      (r.map (·.rewriting f), n) }

section
variable (f : List String → List String)

theorem LdapResult.upToUrls_rewriting (r : LdapResult) : r.UpToUrls (r.rewriting f) := .intro r _

theorem Failure.upToUrls_rewriting (x : Failure) : x.UpToUrls (x.rewriting f) := by
  cases x with
  | result r => exact .result (r.upToUrls_rewriting f)
  | _ => exact .same _

theorem Response.upToUrls_rewriting (x : Response) : x.UpToUrls (x.rewriting f) := by
  cases x with
  | reference urls => exact .reference urls _
  | _ => exact .same _

/-- Whatever URLs take the place of its own, a network agrees up to URLs. -/
theorem Transport.agreesUpToUrls_rewriting (t : Transport N) :
    t.AgreesUpToUrls Eq (t.rewriting f) where
  connect h settings := h ▸ ⟨rfl, rfl⟩
  bind h s request := h ▸ ⟨rfl, rfl⟩
  search {n n'} h s request := by
    subst h
    refine ⟨?_, rfl⟩
    show AnswersUpToUrls Eq (t.search s request n).1
      ((t.search s request n).1.mapError (·.rewriting f))
    cases (t.search s request n).1 with
    | error x => exact .error (x.upToUrls_rewriting f)
    | ok c => exact .ok rfl
  isConnected h s := h ▸ rfl
  close h s := h ▸ ⟨rfl, rfl⟩
  next {n n'} h c := by
    subst h
    refine ⟨?_, rfl⟩
    show AnswersUpToUrls _ (t.next c n).1
      (((t.next c n).1.mapError (·.rewriting f)).map (·.map (·.rewriting f)))
    rcases (t.next c n).1 with x | _ | r
    · exact .error (x.upToUrls_rewriting f)
    · exact .ok .none
    · exact .ok (.some (r.upToUrls_rewriting f))
  finish {n n'} h c := by
    subst h
    refine ⟨?_, rfl⟩
    show Option.Rel _ (t.finish c n).1 ((t.finish c n).1.map (·.rewriting f))
    cases (t.finish c n).1 with
    | none => exact .none
    | some r => exact .some (r.upToUrls_rewriting f)
  isDone h c := h ▸ rfl
  abandon h c := h ▸ ⟨rfl, rfl⟩
  cancel h c := h ▸ rfl

end

end

end DirectoryClient
