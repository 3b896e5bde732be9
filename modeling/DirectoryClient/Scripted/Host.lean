import DirectoryClient.Request

/-!
# What a scripted server does

* `Answers`      answers that are given in turn, or one that is given always;
* `Damage`       what a failure leaves behind;
* `Step`, `Script`   the responses to one search;
* `Host`         the answers of a server to connecting, binding, closing and searching;
* `Hosts`        servers by the text of host and port.
-/

namespace DirectoryClient.Scripted

inductive Answers (α : Type)
  | always (a : α)
  /-- one after the other, then what is usual -/
  | inTurn (l : List α)
  deriving DecidableEq

namespace Answers

variable {α : Type}

/-- the next answer, and those that remain -/
def take (usual : α) : Answers α → α × Answers α
  | .always a => (a, .always a)
  | .inTurn [] => (usual, .inTurn [])
  | .inTurn (a :: l) => (a, .inTurn l)

/-- no answers but the usual one -/
def none : Answers α := .inTurn []

end Answers

inductive Damage
  | none
  /-- the session ends -/
  | sessionLost
  /-- the session ends and the server takes no more connections -/
  | serverLost
  deriving DecidableEq, Repr

inductive Step
  | response (r : Response)
  /-- a failure, after which the search may still be open -/
  | failure (f : Failure) (stillOpen : Bool) (damage : Damage)
  deriving DecidableEq, Repr

inductive Script
  /-- the search does not begin -/
  | refusal (f : Failure) (damage : Damage)
  /-- responses and, it may be, a result in the end -/
  | stream (steps : List Step) (terminal : Option LdapResult)
  deriving DecidableEq, Repr

/-- no entries, and success -/
def Script.usual : Script := .stream [] (some { code := ResultCode.success })

inductive Reception
  | welcome
  | decline
  | refuse (f : Failure)
  deriving DecidableEq, Repr

/-- the answer to a bind -/
inductive BindAnswer
  | result (r : LdapResult)
  | failure (f : Failure)
  deriving DecidableEq, Repr

structure Host where
  connect : Answers Reception := .none
  bind : Answers BindAnswer := .none
  /-- how closing a session fails, if it does -/
  close : Answers (Option Failure) := .none
  /-- how giving up a search fails, if it does -/
  abandon : Answers (Option Failure) := .none
  /-- for the searches to come -/
  scripts : List Script := []
  deriving DecidableEq

/-- Servers that nobody has described answer as usual. -/
abbrev Hosts := List (String × Host)

namespace Hosts

def get (hosts : Hosts) (key : String) : Host := (hosts.lookup key).getD {}

def put (key : String) (host : Host) : Hosts → Hosts
  | [] => [(key, host)]
  | (k, h) :: rest => if k = key then (key, host) :: rest else (k, h) :: put key host rest

theorem get_put_self (key : String) (host : Host) (hosts : Hosts) :
    (put key host hosts).get key = host := by
  induction hosts with
  | nil => simp [put, get]
  | cons p rest ih =>
    obtain ⟨k, h⟩ := p
    by_cases hk : k = key
    · simp [put, get, hk]
    · have hb : (key == k) = false := by simpa using Ne.symm hk
      simpa [put, get, hk, List.lookup_cons, hb] using ih

theorem get_put_of_ne (key other : String) (host : Host) (hosts : Hosts) (hne : other ≠ key) :
    (put key host hosts).get other = hosts.get other := by
  induction hosts with
  | nil =>
    have hb : (other == key) = false := by simpa using hne
    simp [put, get, List.lookup_cons, hb]
  | cons p rest ih =>
    obtain ⟨k, h⟩ := p
    by_cases hk : k = key
    · have hb : (other == key) = false := by simpa using hne
      simp [put, get, hk, List.lookup_cons, hb]
    · by_cases ho : other = k
      · simp [put, get, hk, ho]
      · have hb : (other == k) = false := by simpa using ho
        simpa [put, get, hk, List.lookup_cons, hb] using ih

end Hosts

end DirectoryClient.Scripted
