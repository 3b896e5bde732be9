import DirectoryClient.Inspection

/-!
# Secrets

A `Secret` shows the same text whatever it holds (`Secret.inspect_eq`); its value is handed to a
function by `Secret.access` alone.
-/

namespace DirectoryClient

/-- what stands in the place of a secret -/
def redactedText : String := "***REDACTED***"

/-- The value is meant for `access` alone. -/
structure Secret where
  value : String
  deriving DecidableEq

namespace Secret

/-- what `f` makes of the value -/
def access {α : Type} (s : Secret) (f : String → α) : α := f s.value

/-- An empty secret goes with an anonymous bind. -/
def isEmpty (s : Secret) : Bool := s.value.isEmpty

def inspect (_ : Secret) : Inspection := .word ("GuardedSecret(" ++ redactedText ++ ")")

theorem inspect_eq (s t : Secret) : s.inspect = t.inspect := rfl

end Secret

end DirectoryClient
