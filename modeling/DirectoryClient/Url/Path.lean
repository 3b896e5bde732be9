import DirectoryClient.Url.Basic
import DirectoryClient.Percent
import DirectoryClient.Text.Split

/-!
# Paths of URLs

A path is a list of segments.  A segment of one dot is left out, a segment of two dots takes the one
before it away; a dot may be written `%2e`.  A segment that names a drive (`C:`) is never taken away.

* `Segments.resolve`   the segments without dot segments;
* `pathText`           the written path.

`resolve_plain` says that a path without dot segments stays as it is.
-/

namespace DirectoryClient.Url

open DirectoryClient.Text

/-- the visible characters that a path must escape all the same -/
def escapedInPath : List Char := ['"', '#', '<', '>', '?', '\x60', '\x7b', '\x7d']

/-- the characters that a path writes as themselves -/
def keptInPath (c : Char) : Bool :=
  0x20 < c.toNat && c.toNat < 0x7F && !escapedInPath.contains c

/-- the segment with every written dot as a dot -/
def undot : List Char → List Char
  | '%' :: '2' :: c :: s => if c = 'e' || c = 'E' then '.' :: undot s else '%' :: undot ('2' :: c :: s)
  | c :: s => c :: undot s
  | [] => []

def isSingleDot (s : List Char) : Bool := undot s == ['.']
def isDoubleDot (s : List Char) : Bool := undot s == ['.', '.']

/-- a letter and a colon or a bar, with nothing else before a backslash -/
def isDrive : List Char → Bool
  | a :: b :: rest => a.isAlpha && (b == ':' || b == '|') && rest.head?.all (· == '\\')
  | _ => false

/-- the segments before the last one, which stays if it names a drive -/
def shorten (before : List (List Char)) : List (List Char) :=
  match before with
  | s :: rest => if isDrive s then before else rest
  | [] => []

/-- `before` holds the segments already kept, last one first. -/
def resolveFrom (before : List (List Char)) : List (List Char) → List (List Char)
  | [] => before.reverse
  | s :: rest =>
    let more (kept : List (List Char)) := resolveFrom (if rest.isEmpty then [] :: kept else kept) rest
    if isDoubleDot s then more (shorten before)
    else if isSingleDot s then more before
    else resolveFrom (s :: before) rest

def resolve (segments : List (List Char)) : List (List Char) := resolveFrom [] segments

/-- the path whose text begins after the authority -/
def pathText (k : Kind) (s : List Char) : List Char :=
  let segments := match s with
    | [] => []
    | c :: r => cut k.separates (if k.separates c then r else s)
  (resolve segments).flatMap fun seg => '/' :: Percent.encode keptInPath seg

theorem resolveFrom_plain (before segments : List (List Char))
    (h : ∀ s ∈ segments, isDoubleDot s = false ∧ isSingleDot s = false) :
    resolveFrom before segments = before.reverse ++ segments := by
  induction segments generalizing before with
  | nil => simp [resolveFrom]
  | cons s rest ih =>
    obtain ⟨h2, h1⟩ := h s (by simp)
    rw [resolveFrom, h2, h1]
    simp [ih (s :: before) fun t ht => h t (by simp [ht])]

theorem resolve_plain (segments : List (List Char))
    (h : ∀ s ∈ segments, isDoubleDot s = false ∧ isSingleDot s = false) :
    resolve segments = segments := by
  rw [resolve, resolveFrom_plain [] segments h]
  rfl

end DirectoryClient.Url
