import DirectoryClient.Domain.Mapping.Table
import DirectoryClient.Text.Normal

/-!
# The characters of domain names

Domain names that look alike are one name: capital letters stand for small ones, wide and slanted
forms for plain ones, an ideographic full stop for a point, and some characters for nothing.

* `Fate`       what becomes of a character;
* `fate`       which one it is;
* `mapped`     a text with every character replaced, none if one of them is refused;
* `folded`     the same in normal form;
* `isSettled`  whether a text stays as it is.
-/

namespace DirectoryClient.Domain

open DirectoryClient.Text

inductive Fate
  | kept
  | dropped
  | replaced (others : List Char)
  | refused
  deriving DecidableEq, Repr

/-- the characters `first`, `first + step`, …, `last`, which become those as far behind `target` -/
structure Run where
  first : Nat
  last : Nat
  step : Nat
  target : Nat

def Run.at? (r : Run) (n : Nat) : Option Nat :=
  if r.first ≤ n ∧ n ≤ r.last ∧ (n - r.first) % r.step = 0 then some (r.target + (n - r.first))
  else none

def runs : List Run :=
  (rows runText).filterMap fun
    | [first, last, step, target] => some ⟨first, last, step, target⟩
    | _ => none

def replacedRows : List (Nat × List Nat) :=
  (rows replacedText).filterMap fun
    | n :: others => some (n, others)
    | [] => none

def droppedRanges : List (Nat × Nat) := ranges droppedText
def refusedRanges : List (Nat × Nat) := ranges refusedText

/-- what a character beyond ASCII is replaced by -/
def replacement? (n : Nat) : Option (List Nat) :=
  match runs.findSome? (·.at? n) with
  | some target => some [target]
  | none => replacedRows.lookup n

def fate (c : Char) : Fate :=
  if c.toNat < 0x80 then if c.isUpper then .replaced [c.toLower] else .kept
  else match replacement? c.toNat with
    | some others => .replaced (others.map Char.ofNat)
    | none =>
      if inRanges droppedRanges c.toNat then .dropped
      else if inRanges refusedRanges c.toNat then .refused
      else .kept

def Fate.apply (c : Char) : Fate → Option (List Char)
  | .kept => some [c]
  | .dropped => some []
  | .replaced others => some others
  | .refused => none

def mapped (s : List Char) : Option (List Char) :=
  (s.mapM fun c => (fate c).apply c).map List.flatten

def folded (s : List Char) : Option (List Char) := (mapped s).map normal

def isSettled (s : List Char) : Bool := s.all (fate · == .kept) && normal s == s

theorem mapped_of_kept (s : List Char) (h : ∀ c ∈ s, fate c = .kept) : mapped s = some s := by
  have parts : s.mapM (fun c => (fate c).apply c) = some (s.map fun c => [c]) := by
    induction s with
    | nil => rfl
    | cons c s ih =>
      rw [List.mapM_cons, h c (by simp), ih fun d hd => h d (by simp [hd])]
      rfl
  rw [mapped, parts]
  simp [List.flatten_eq_flatMap, List.flatMap_map]

theorem folded_of_isSettled (s : List Char) (h : isSettled s = true) : folded s = some s := by
  simp only [isSettled, Bool.and_eq_true, List.all_eq_true, beq_iff_eq] at h
  rw [folded, mapped_of_kept s h.1, Option.map_some, h.2]

end DirectoryClient.Domain
