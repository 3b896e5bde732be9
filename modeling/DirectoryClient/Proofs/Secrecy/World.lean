import DirectoryClient.Cursor
import DirectoryClient.Proofs.Secrecy.Registry
import DirectoryClient.Search.Progress

/-!
# Two clients with different passwords

Two clients act on two worlds.  Their networks answer alike: a relation of their states says that
they have been asked the same so far, and it is kept by every call that is the same on both sides.
Binds count as the same if they differ in nothing but passwords that stand for each other, so each
network may know the passwords of its own client.

* `Transport.Agrees`   two networks that answer alike;
* `Event.Twin`         two lines of the records that differ in the password of a bind at most;
* `World.Twin`         two worlds in which the same has happened;
* `Act.Agree`          computations that keep worlds twins and give related answers;
* `Searching.Agree`    the same with progress, which is the same on both sides.
-/

namespace DirectoryClient

section
variable {N N' α β γ δ : Type} {P : String → String → Prop} {R : N → N' → Prop}

/-! ## Networks -/

/-- Without a secret there are two empty passwords. -/
structure BindRequest.Twin (P : String → String → Prop) (q q' : BindRequest) : Prop where
  dn : q.dn = q'.dn
  password : P q.password q'.password ∨ q.password = "" ∧ q'.password = ""

theorem ServerRecord.Twin.bindRequest {r r' : ServerRecord} (h : ServerRecord.Twin P r r') :
    BindRequest.Twin P r.bindRequest r'.bindRequest := by
  obtain ⟨secret, rest⟩ := h
  refine ⟨by rw [rest]; rfl, ?_⟩
  rw [ServerRecord.bindRequest, ServerRecord.bindRequest]
  generalize r.bindSecret = s at secret
  generalize r'.bindSecret = s' at secret
  cases secret with
  | some h => exact .inl h
  | none => exact .inr ⟨rfl, rfl⟩

/-- the same answer, and states that are still related -/
def SameAnswer (R : N → N' → Prop) (a : α × N) (b : α × N') : Prop := a.1 = b.1 ∧ R a.2 b.2

/-- In states that `R` relates, both networks answer alike. -/
structure Transport.Agrees (P : String → String → Prop) (R : N → N' → Prop) (t : Transport N)
    (t' : Transport N') : Prop where
  connect {n : N} {n' : N'} (h : R n n') (settings : Settings) :
    SameAnswer R (t.connect settings n) (t'.connect settings n')
  bind {n : N} {n' : N'} (h : R n n') (s : SessionId) {q q' : BindRequest}
    (hq : BindRequest.Twin P q q') : SameAnswer R (t.bind s q n) (t'.bind s q' n')
  search {n : N} {n' : N'} (h : R n n') (s : SessionId) (request : SearchRequest) :
    SameAnswer R (t.search s request n) (t'.search s request n')
  isConnected {n : N} {n' : N'} (h : R n n') (s : SessionId) :
    t.isConnected s n = t'.isConnected s n'
  close {n : N} {n' : N'} (h : R n n') (s : SessionId) :
    SameAnswer R (t.close s n) (t'.close s n')
  next {n : N} {n' : N'} (h : R n n') (c : CursorId) :
    SameAnswer R (t.next c n) (t'.next c n')
  finish {n : N} {n' : N'} (h : R n n') (c : CursorId) :
    SameAnswer R (t.finish c n) (t'.finish c n')
  isDone {n : N} {n' : N'} (h : R n n') (c : CursorId) : t.isDone c n = t'.isDone c n'
  abandon {n : N} {n' : N'} (h : R n n') (c : CursorId) :
    SameAnswer R (t.abandon c n) (t'.abandon c n')
  cancel {n : N} {n' : N'} (h : R n n') (c : CursorId) : R (t.cancel c n) (t'.cancel c n')

/-! ## Worlds -/

/-- Only the password of a bind may differ. -/
inductive Event.Twin (P : String → String → Prop) : Event → Event → Prop
  | same (e : Event) : Event.Twin P e e
  | bind (s : SessionId) {q q' : BindRequest} (hq : BindRequest.Twin P q q')
      (answer : Except Failure LdapResult) : Event.Twin P (.bind s q answer) (.bind s q' answer)

structure World.Twin (P : String → String → Prop) (R : N → N' → Prop) (w : World N)
    (w' : World N') : Prop where
  net : R w.net w'.net
  registry : Registry.Twin P w.registry w'.registry
  chance : w.chance = w'.chance
  drawn : w.drawn = w'.drawn
  log : List.Forall₂ (Event.Twin P) w.log w'.log

/-! ## Computations -/

/-- Twin worlds stay twins, and `A` relates the answers. -/
def Act.Agree (P : String → String → Prop) (R : N → N' → Prop) (A : α → β → Prop) (x : Act N α)
    (y : Act N' β) : Prop :=
  ∀ w w', World.Twin P R w w' → A (x w).1 (y w').1 ∧ World.Twin P R (x w).2 (y w').2

namespace Act.Agree

variable {A : α → β → Prop} {B : γ → δ → Prop} {x : Act N α} {y : Act N' β}

theorem pure {a : α} {b : β} (h : A a b) :
    Act.Agree P R A (Pure.pure a : Act N α) (Pure.pure b : Act N' β) := fun _ _ hw => ⟨h, hw⟩

theorem bind {f : α → Act N γ} {g : β → Act N' δ} (hx : Act.Agree P R A x y)
    (hf : ∀ a b, A a b → Act.Agree P R B (f a) (g b)) : Act.Agree P R B (x >>= f) (y >>= g) := by
  intro w w' hw
  obtain ⟨ha, hw⟩ := hx w w' hw
  exact hf _ _ ha _ _ hw

/-- After the same answer on both sides. -/
theorem next {y : Act N' α} {f : α → Act N γ} {g : α → Act N' δ} (hx : Act.Agree P R Eq x y)
    (hf : ∀ a, Act.Agree P R B (f a) (g a)) : Act.Agree P R B (x >>= f) (y >>= g) := by
  refine hx.bind ?_
  rintro a _ rfl
  exact hf a

/-- a question about the world -/
theorem ask {f : World N → α} {g : World N' → β} (h : ∀ w w', World.Twin P R w w' → A (f w) (g w')) :
    Act.Agree P R A (fun w => (f w, w)) (fun w => (g w, w)) := fun _ _ hw => ⟨h _ _ hw, hw⟩

theorem record (e : Event) :
    Act.Agree P R Eq (World.record e : Act N Unit) (World.record e : Act N' Unit) :=
  fun _ _ hw => ⟨rfl, { hw with log := hw.log.cons (.same e) }⟩

theorem draw : Act.Agree P R Eq (World.draw : Act N Nat) (World.draw : Act N' Nat) := by
  intro w w' hw
  have hdraw : w.chance w.drawn = w'.chance w'.drawn := by rw [hw.chance, hw.drawn]
  exact ⟨hdraw, { hw with drawn := congrArg (· + 1) hw.drawn }⟩

theorem call {act : N → α × N} {act' : N' → α × N'} {note note' : α → Event}
    (h : ∀ n n', R n n' → SameAnswer R (act n) (act' n'))
    (hnote : ∀ a, Event.Twin P (note a) (note' a)) :
    Act.Agree P R Eq (World.call act note) (World.call act' note') := by
  intro w w' hw
  obtain ⟨ha, hnet⟩ := h _ _ hw.net
  refine ⟨ha, { hw with net := hnet, log := hw.log.cons ?_ }⟩
  rw [ha]
  exact hnote _

theorem pause (p : RetryPolicy) (retry : UInt32) :
    Act.Agree P R Eq (World.pause p retry : Act N Unit) (World.pause p retry : Act N' Unit) :=
  draw.next fun _ => record _

end Act.Agree

/-- The same answer and the same progress on both sides. -/
def Searching.Agree {O : Type} (P : String → String → Prop) (R : N → N' → Prop)
    (x : Searching N O α) (y : Searching N' O α) : Prop :=
  ∀ p, Act.Agree P R Eq (x p) (y p)

namespace Searching.Agree

variable {O : Type} {x : Searching N O α} {y : Searching N' O α}

theorem pure (a : α) :
    Searching.Agree P R (Pure.pure a : Searching N O α) (Pure.pure a : Searching N' O α) :=
  fun _ => Act.Agree.pure rfl

theorem next {f : α → Searching N O β} {g : α → Searching N' O β} (hx : Searching.Agree P R x y)
    (hf : ∀ a, Searching.Agree P R (f a) (g a)) : Searching.Agree P R (x >>= f) (y >>= g) :=
  fun p => (hx p).next fun a => hf a.1 a.2

theorem lift {x : Act N α} {y : Act N' α} (h : Act.Agree P R Eq x y) :
    Searching.Agree P R (liftM x : Searching N O α) (liftM y : Searching N' O α) := by
  intro p w w' hw
  obtain ⟨ha, hw⟩ := h w w' hw
  exact ⟨congrArg (·, p) ha, hw⟩

/-- After answers that are related, but need not be the same. -/
theorem liftBind {A : β → γ → Prop} {x : Act N β} {y : Act N' γ} {f : β → Searching N O α}
    {g : γ → Searching N' O α} (h : Act.Agree P R A x y)
    (hf : ∀ a b, A a b → Searching.Agree P R (f a) (g b)) :
    Searching.Agree P R (liftM x >>= f) (liftM y >>= g) := by
  intro p w w' hw
  obtain ⟨ha, hw⟩ := h w w' hw
  exact hf _ _ ha p _ _ hw

theorem modify (f : Progress O → Progress O) :
    Searching.Agree P R (modify f : Searching N O Unit) (modify f : Searching N' O Unit) :=
  fun _ => Act.Agree.pure rfl

theorem get : Searching.Agree P R (get : Searching N O (Progress O))
    (get : Searching N' O (Progress O)) := fun _ => Act.Agree.pure rfl

end Searching.Agree

/-! ## Calls of the network -/

namespace Transport.Agrees

variable {t : Transport N} {t' : Transport N'} (h : t.Agrees P R t')
include h

theorem dial (server : Nat) (settings : Settings) :
    Act.Agree P R Eq (t.dial server settings) (t'.dial server settings) :=
  .call (fun _ _ hn => h.connect hn settings) fun _ => .same _

theorem login (s : SessionId) {q q' : BindRequest} (hq : BindRequest.Twin P q q') :
    Act.Agree P R Eq (t.login s q) (t'.login s q') :=
  .call (fun _ _ hn => h.bind hn s hq) fun a => .bind s hq a

theorem start (s : SessionId) (request : SearchRequest) :
    Act.Agree P R Eq (t.start s request) (t'.start s request) :=
  .call (fun _ _ hn => h.search hn s request) fun _ => .same _

theorem hangUp (s : SessionId) : Act.Agree P R Eq (t.hangUp s) (t'.hangUp s) :=
  .call (fun _ _ hn => h.close hn s) fun _ => .same _

theorem advance (c : CursorId) : Act.Agree P R Eq (t.advance c) (t'.advance c) :=
  .call (fun _ _ hn => h.next hn c) fun _ => .same _

theorem terminal (c : CursorId) : Act.Agree P R Eq (t.terminal c) (t'.terminal c) :=
  .call (fun _ _ hn => h.finish hn c) fun _ => .same _

theorem giveUp (c : CursorId) : Act.Agree P R Eq (t.giveUp c) (t'.giveUp c) :=
  .call (fun _ _ hn => h.abandon hn c) fun _ => .same _

theorem cancelNow (c : CursorId) : Act.Agree P R Eq (t.cancelNow c) (t'.cancelNow c) :=
  .call (fun _ _ hn => ⟨rfl, h.cancel hn c⟩) fun _ => .same _

theorem ended (c : CursorId) : Act.Agree P R Eq (t.ended c) (t'.ended c) :=
  .ask fun _ _ hw => h.isDone hw.net c

theorem release (c : CursorId) : Act.Agree P R Eq (t.release c) (t'.release c) := by
  refine (h.ended c).next fun done => ?_
  cases done with
  | true => exact .pure rfl
  | false => exact (h.giveUp c).next fun _ => .pure rfl

theorem discard (c : CursorId) : Act.Agree P R Eq (t.discard c) (t'.discard c) := by
  refine (h.ended c).next fun done => ?_
  cases done with
  | true => exact .pure rfl
  | false => exact h.cancelNow c

end Transport.Agrees

end

end DirectoryClient
