import DirectoryClient.World

/-!
# Ending a search on the wire

A cursor stands for a search that the server may still be working on.  Whoever opened it ends it in
one of three ways.

* `Transport.release`   gives the search up if it has not ended, for a cursor that was read to its
                        end;
* `Transport.giveUp`    gives it up whether it has ended or not;
* `Transport.discard`   cancels it if it has not ended, for a cursor that was left in the middle.
-/

namespace DirectoryClient

namespace Transport

variable {N : Type} (t : Transport N)

/-- A failure to give up is passed over. -/
def release (c : CursorId) : Act N Unit := do
  if ← t.ended c then return ()
  let _ ← t.giveUp c

def discard (c : CursorId) : Act N Unit := do
  if ← t.ended c then return ()
  t.cancelNow c

end Transport

end DirectoryClient
