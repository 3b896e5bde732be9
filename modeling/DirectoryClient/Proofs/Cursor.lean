import DirectoryClient.Cursor
import Mathlib.Logic.Relation

/-!
# How cursors are ended

A search that is under way has to be ended once: it completes on the wire, or the server is told
once that nobody waits any more.

* `Signal`              what the server is told;
* `Transport.Signals`   what a transport promises about cursors;
* `Transport.Reads`     reading a cursor for a while;
* `Transport.Ended`     a search that was read for a while and is ended now, once
                        (`ended_release`, `ended_giveUp`, `ended_discard`);
* `Guard`               the owner of a cursor, who reads it and lets go of it in one of three ways
                        (`ended_guarded`).
-/

namespace DirectoryClient

open Relation

variable {N : Type}

inductive Signal
  | abandon
  | cancel
  deriving DecidableEq, Repr

namespace Transport

/-! ## Signals -/

section
variable (t : Transport N)

def send (signal : Signal) (c : CursorId) (n : N) : N :=
  match signal with
  | .abandon => (t.abandon c n).2
  | .cancel => t.cancel c n

/-- What a transport promises about its cursors, where `sent` are the signals that went out for a
cursor, newest first. -/
structure Signals (sent : CursorId → N → List Signal) : Prop where
  /-- a search that yields a response has not ended -/
  yields : ∀ c n r, (t.next c n).1 = .ok (some r) → t.isDone c (t.next c n).2 = false
  next : ∀ c n, sent c (t.next c n).2 = sent c n
  finish : ∀ c n, sent c (t.finish c n).2 = sent c n
  /-- for a search that has ended nothing goes out -/
  send : ∀ signal c n,
    sent c (t.send signal c n) = if t.isDone c n then sent c n else signal :: sent c n
  /-- a signal ends the search, even if giving up fails -/
  done : ∀ signal c n, t.isDone c (t.send signal c n) = true

/-- one step of reading a cursor, whatever comes of it -/
inductive Reading (c : CursorId) (n : N) : N → Prop
  | next : Reading c n (t.next c n).2
  | finish : Reading c n (t.finish c n).2

abbrev Reads (c : CursorId) : N → N → Prop := ReflTransGen (t.Reading c)

/-- From `n` to `n'` a cursor was read and then left for good. -/
structure Ended (sent : CursorId → N → List Signal) (c : CursorId) (signal : Signal) (n n' : N) :
    Prop where
  done : t.isDone c n' = true
  /-- Reading stopped at `k`.  Either the search had ended by then and nothing went out, or it was
  still under way and one signal went out. -/
  once : ∃ k, t.Reads c n k ∧ (n' = k ∨ n' = t.send signal c k) ∧
    ((t.isDone c k = true ∧ sent c n' = sent c n) ∨
      (t.isDone c k = false ∧ sent c n' = signal :: sent c n))

end

variable {t : Transport N} {sent : CursorId → N → List Signal} (h : t.Signals sent)

theorem release_snd (c : CursorId) (w : World N) :
    (t.release c w).2 = if t.isDone c w.net then w else (t.giveUp c w).2 := by
  cases hd : t.isDone c w.net <;> simp [release, ended, hd]

theorem discard_snd (c : CursorId) (w : World N) :
    (t.discard c w).2 = if t.isDone c w.net then w else (t.cancelNow c w).2 := by
  cases hd : t.isDone c w.net <;> simp [discard, ended, hd]

namespace Signals
include h

theorem sent_of_reads {c : CursorId} {n n' : N} (hr : t.Reads c n n') : sent c n' = sent c n := by
  induction hr with
  | refl => rfl
  | tail _ hs ih =>
    cases hs with
    | next => rw [h.next, ih]
    | finish => rw [h.finish, ih]

/-- A search that has ended may be left as it is. -/
theorem ended_of_done {c : CursorId} {n n' : N} (signal : Signal) (hr : t.Reads c n n')
    (hd : t.isDone c n' = true) : t.Ended sent c signal n n' where
  done := hd
  once := ⟨n', hr, .inl rfl, .inl ⟨hd, h.sent_of_reads hr⟩⟩

/-- A signal ends a search, whether it had ended or not. -/
theorem ended_send {c : CursorId} {n k : N} (signal : Signal) (hr : t.Reads c n k) :
    t.Ended sent c signal n (t.send signal c k) where
  done := h.done signal c k
  once := by
    refine ⟨k, hr, .inr rfl, ?_⟩
    rw [h.send signal c k, h.sent_of_reads hr]
    cases t.isDone c k with
    | true => exact .inl ⟨rfl, rfl⟩
    | false => exact .inr ⟨rfl, rfl⟩

theorem sent_send_of_not_done {c : CursorId} {n k : N} (signal : Signal) (hr : t.Reads c n k)
    (hd : t.isDone c k = false) : sent c (t.send signal c k) = signal :: sent c n := by
  rw [h.send signal c k, hd, h.sent_of_reads hr]
  rfl

/-! ## The three ways to leave a cursor -/

theorem ended_giveUp {c : CursorId} {n : N} {w : World N} (hr : t.Reads c n w.net) :
    t.Ended sent c .abandon n (t.giveUp c w).2.net :=
  h.ended_send .abandon hr

theorem ended_release {c : CursorId} {n : N} {w : World N} (hr : t.Reads c n w.net) :
    t.Ended sent c .abandon n (t.release c w).2.net := by
  rw [release_snd]
  cases hd : t.isDone c w.net with
  | true => exact h.ended_of_done .abandon hr hd
  | false => exact h.ended_giveUp hr

theorem ended_discard {c : CursorId} {n : N} {w : World N} (hr : t.Reads c n w.net) :
    t.Ended sent c .cancel n (t.discard c w).2.net := by
  rw [discard_snd]
  cases hd : t.isDone c w.net with
  | true => exact h.ended_of_done .cancel hr hd
  | false => exact h.ended_send .cancel hr

/-- A search that is under way when it is discarded is cancelled. -/
theorem sent_discard_of_not_done {c : CursorId} {n : N} {w : World N} (hr : t.Reads c n w.net)
    (hd : t.isDone c w.net = false) : sent c (t.discard c w).2.net = .cancel :: sent c n := by
  rw [discard_snd, hd]
  exact h.sent_send_of_not_done .cancel hr hd

end Signals

end Transport

/-! ## Owners of cursors -/

/-- The owner of a cursor.  It holds none any more once it has let go. -/
structure Guard where
  held : Option CursorId
  deriving DecidableEq, Repr

namespace Guard

variable (t : Transport N) (g : Guard)

def next : Act N (Except Failure (Option Response)) :=
  match g.held with
  | some c => t.advance c
  | none => return .ok none

def finish : Act N (Option LdapResult) :=
  match g.held with
  | some c => t.terminal c
  | none => return none

/-- Dropped while it holds a cursor, a guard cancels the search that is still under way. -/
def drop : Act N Unit :=
  match g.held with
  | some c => t.discard c
  | none => return ()

/-- A guard that was closed lets go of the cursor before it is dropped. -/
def close : Act N Unit := do
  match g.held with
  | some c => t.release c
  | none => return ()
  drop t { g with held := none }

def abandon : Act N Unit := do
  match g.held with
  | some c => let _ ← t.giveUp c
  | none => return ()
  drop t { g with held := none }

/-- what the owner of a cursor may do as long as it holds it -/
inductive Call
  | next
  | finish
  deriving DecidableEq, Repr

/-- how it lets go -/
inductive Exit
  | close
  | abandon
  | drop
  deriving DecidableEq, Repr

def call : Call → Act N Unit
  | .next => do let _ ← g.next t
  | .finish => do let _ ← g.finish t

def leave : Exit → Act N Unit
  | .close => g.close t
  | .abandon => g.abandon t
  | .drop => g.drop t

/-- the signal for a search that is still under way -/
def Exit.signal : Exit → Signal
  | .close => .abandon
  | .abandon => .abandon
  | .drop => .cancel

/-- the whole life of a guard -/
def guarded (c : CursorId) (calls : List Call) (exit : Exit) : Act N Unit := do
  let g : Guard := { held := some c }
  calls.forM (g.call t)
  g.leave t exit

variable {t}

theorem reading_call (c : CursorId) (x : Call) (w : World N) :
    t.Reading c w.net (call t ⟨some c⟩ x w).2.net := by
  cases x with
  | next => exact .next
  | finish => exact .finish

theorem reads_calls (c : CursorId) (calls : List Call) (w : World N) :
    t.Reads c w.net (calls.forM (call t ⟨some c⟩) w).2.net := by
  induction calls generalizing w with
  | nil => exact .refl
  | cons x calls ih => exact .head (reading_call c x w) (ih _)

/-- A guard lets go of its cursor in the ways in which a pass of a search does. -/
theorem leave_held (c : CursorId) (exit : Exit) (w : World N) :
    (leave t ⟨some c⟩ exit w).2 =
      match exit with
      | .close => (t.release c w).2
      | .abandon => (t.giveUp c w).2
      | .drop => (t.discard c w).2 := by
  cases exit <;> rfl

variable {sent : CursorId → N → List Signal}

theorem ended_leave (h : t.Signals sent) {c : CursorId} {n : N} {w : World N} (exit : Exit)
    (hr : t.Reads c n w.net) : t.Ended sent c exit.signal n (leave t ⟨some c⟩ exit w).2.net := by
  rw [leave_held]
  cases exit with
  | close => exact h.ended_release hr
  | abandon => exact h.ended_giveUp hr
  | drop => exact h.ended_discard hr

/-- **However a guard is used, the search is ended once.** -/
theorem ended_guarded (h : t.Signals sent) (c : CursorId) (calls : List Call) (exit : Exit)
    (w : World N) : t.Ended sent c exit.signal w.net (guarded t c calls exit w).2.net :=
  ended_leave h exit (reads_calls c calls w)

end Guard

end DirectoryClient
