import DirectoryClient.Proofs.Cursor
import DirectoryClient.Scripted.Network

/-!
# A scripted network with a wire

A scripted network does not say what goes out to end a search.  Here every signal for a search that
is under way is written down, so that nothing goes out for one that has ended; and a search that
has ended yields nothing.

* `Wired`             a scripted network and the signals that went out;
* `Wired.transport`   its calls;
* `Wired.signals`     it keeps the promises about cursors.
-/

namespace DirectoryClient.Scripted

namespace Network

theorem cursor?_setCursor {n : Network} {c : CursorId} (h : (n.cursor? c).isSome) (x : Cursor) :
    (n.setCursor c x).cursor? c = some x := by
  obtain ⟨y, hy⟩ := Option.isSome_iff_exists.mp h
  unfold cursor? at hy ⊢
  split at hy
  · cases hy
  · rename_i h0
    have hlt : c.number - 1 < n.cursors.length := (List.getElem?_eq_some_iff.mp hy).1
    rw [if_neg h0]
    exact List.getElem?_set_self hlt

/-- A response takes a step of the script and nothing else. -/
theorem setCursor_of_next {n : Network} {c : CursorId} {r : Response}
    (h : (next c n).1 = .ok (some r)) : ∃ x step steps, n.cursor? c = some x ∧
      x.steps = step :: steps ∧ (next c n).2 = n.setCursor c { x with steps := steps } := by
  unfold next at h ⊢
  cases hx : n.cursor? c with
  | none => simp [hx] at h
  | some x =>
    rw [hx] at h
    dsimp only at h ⊢
    cases hsteps : x.steps with
    | nil => simp [hsteps] at h
    | cons step steps =>
      cases step with
      | response r' => exact ⟨x, _, steps, rfl, hsteps, rfl⟩
      | failure f stillOpen damage => simp [hsteps] at h

end Network

structure Wired where
  net : Network
  /-- newest first -/
  wire : List (CursorId × Signal) := []
  deriving DecidableEq

namespace Wired

/-- a call that sends nothing on behalf of a search -/
def lift {α : Type} (act : Network → α × Network) (n : Wired) : α × Wired :=
  ((act n.net).1, { n with net := (act n.net).2 })

/-- A search that nobody began is none that has to be ended. -/
def isDone (c : CursorId) (n : Wired) : Bool := (n.net.cursor? c).all (·.done)

def tell (signal : Signal) (c : CursorId) (n : Wired) : Wired :=
  { n with wire := (c, signal) :: n.wire }

def sent (c : CursorId) (n : Wired) : List Signal :=
  (n.wire.filter (·.1 = c)).map (·.2)

def next (c : CursorId) (n : Wired) : Except Failure (Option Response) × Wired :=
  if isDone c n then (.ok none, n) else n.lift (Network.next c)

def abandon (c : CursorId) (n : Wired) : Except Failure Unit × Wired :=
  if isDone c n then (.ok (), n) else (n.tell .abandon c).lift (Network.abandon c)

def cancel (c : CursorId) (n : Wired) : Wired :=
  if isDone c n then n else { n.tell .cancel c with net := n.net.markDone c }

def transport : Transport Wired where
  connect settings := lift (Network.connect settings)
  bind s request := lift (Network.bind s request)
  search s request := lift (Network.search s request)
  isConnected s n := n.net.isConnected s
  close s := lift (Network.close s)
  next := next
  finish c := lift (Network.finish c)
  isDone := isDone
  abandon := abandon
  cancel := cancel

/-! ## What it promises -/

theorem sent_tell (signal : Signal) (c : CursorId) (n : Wired) :
    sent c (n.tell signal c) = signal :: sent c n := by
  simp [sent, tell]

theorem isSome_cursor?_of_isDone_eq_false {c : CursorId} {n : Wired} (h : isDone c n = false) :
    (n.net.cursor? c).isSome := by
  unfold isDone at h
  cases hx : n.net.cursor? c with
  | none => simp [hx] at h
  | some x => rfl

theorem isDone_of_net {c : CursorId} {n : Wired} (h : n.net.isDone c = true) :
    isDone c n = true := by
  unfold Network.isDone at h
  unfold isDone
  cases hx : n.net.cursor? c with
  | none => rfl
  | some x => simpa [hx] using h

/-- A response leaves the search under way. -/
theorem isDone_of_yields {c : CursorId} {n : Wired} {r : Response}
    (h : (next c n).1 = .ok (some r)) : isDone c (next c n).2 = false := by
  cases hd : isDone c n with
  | true => simp [next, hd] at h
  | false =>
    have hn : next c n = n.lift (Network.next c) := by simp [next, hd]
    rw [hn] at h ⊢
    obtain ⟨x, -, steps, hx, -, hnext⟩ := Network.setCursor_of_next h
    have hset := Network.cursor?_setCursor (Option.isSome_iff_exists.mpr ⟨x, hx⟩)
    simp only [isDone, hx, Option.all_some] at hd
    simp only [isDone, lift, hnext, hset, Option.all_some, hd]

theorem sent_send (signal : Signal) (c : CursorId) (n : Wired) :
    sent c (transport.send signal c n) =
      if isDone c n then sent c n else signal :: sent c n := by
  cases hd : isDone c n with
  | true => cases signal <;> simp [Transport.send, transport, abandon, cancel, hd]
  | false =>
    rw [if_neg (by simp), ← sent_tell]
    cases signal <;> simp [Transport.send, transport, abandon, cancel, hd, lift, sent, tell]

theorem isDone_send (signal : Signal) (c : CursorId) (n : Wired) :
    isDone c (transport.send signal c n) = true := by
  cases hd : isDone c n with
  | true => cases signal <;> simp [Transport.send, transport, abandon, cancel, hd]
  | false =>
    have hc := isSome_cursor?_of_isDone_eq_false hd
    cases signal with
    | abandon =>
      simp only [Transport.send, transport, abandon, hd, lift, tell]
      exact isDone_of_net (Network.isDone_abandon c n.net hc)
    | cancel =>
      simp only [Transport.send, transport, cancel, hd]
      exact isDone_of_net (Network.isDone_markDone c n.net hc)

/-- **Cursors of this network keep their promises.** -/
theorem signals : transport.Signals sent where
  yields _ _ _ h := isDone_of_yields h
  next c n := by
    show sent c (next c n).2 = sent c n
    unfold next
    split <;> rfl
  finish _ _ := rfl
  send := sent_send
  done := isDone_send

end Wired

end DirectoryClient.Scripted
