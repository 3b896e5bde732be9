import DirectoryClient.Dn.Escape

/-!
# Reading distinguished names

* `splitUnescaped`   a text cut at the separators that no backslash escapes;
* `parts`            the same, with the two things that may be wrong with the parts;
* `parseAva`         one assertion;
* `Dn.parse`         a whole name.

A comma or a semicolon separates relative names, a plus sign their assertions.  The whole text is
cut before any assertion is read, and faults are found from left to right.

`splitUnescaped_ne_nil` says that there is always a part.
-/

namespace DirectoryClient

open DirectoryClient.Text

/-- the first part with `cs` before it -/
def prependToFirst (cs : List Char) : List (List Char) → List (List Char)
  | [] => [cs]
  | p :: ps => (cs ++ p) :: ps

/-- none if the text ends in a backslash that escapes nothing -/
def splitUnescaped (separator : Char → Bool) : List Char → Option (List (List Char))
  | [] => some [[]]
  | '\\' :: [] => none
  | '\\' :: c :: s => (splitUnescaped separator s).map (prependToFirst ['\\', c])
  | c :: s =>
    if separator c then (splitUnescaped separator s).map ([] :: ·)
    else (splitUnescaped separator s).map (prependToFirst [c])

def parts (separator : Char → Bool) (s : List Char) : Except DnFlaw (List (List Char)) :=
  match splitUnescaped separator s with
  | none => .error .trailingBackslash
  | some ps => if ps.any (·.all isBlank) then .error .emptyComponent else .ok ps

/-- a separator of relative names -/
def separatesRdns (c : Char) : Bool := c == ',' || c == ';'
/-- a separator of assertions -/
def separatesAvas (c : Char) : Bool := c == '+'

/-- a character of an attribute type -/
def isTypeChar (c : Char) : Bool := c.isAlphanum || c == '-' || c == '.'

/-- what stands before the first `=` and after it -/
def cutAtEquals : List Char → Option (List Char × List Char)
  | [] => none
  | c :: s =>
    if c = '=' then some ([], s) else (cutAtEquals s).map fun (t, v) => (c :: t, v)

def parseAva (s : List Char) : Except DnFlaw Ava :=
  match cutAtEquals s with
  | none => .error (.missingEquals (String.ofList (trim s)))
  | some (t, v) =>
    let type := trim t
    if type.isEmpty || !type.all isTypeChar then .error (.invalidType (String.ofList type))
    else (unescapeValue v).map fun value => ⟨String.ofList type, value⟩

def parseRdn (s : List Char) : Except DnFlaw Rdn := do
  (← parts separatesAvas s).mapM parseAva

def parseRdns (s : List Char) : Except DnFlaw (List Rdn) :=
  if s.isEmpty then .ok [] else do
    (← parts separatesRdns s).mapM parseRdn

/-- the form of a trimmed text -/
def Dn.Form.parse (s : List Char) : Except DnFlaw Dn.Form :=
  if s.head? = some '<' then
    if s.contains '>' then .ok .extended else .error .unterminatedExtended
  else (parseRdns s).map .plain

/-- a name that is not qualified; errors show the text as given -/
def Dn.parse (text : String) : Except DnError Dn :=
  match Dn.Form.parse (trim text.toList) with
  | .ok form => .ok ⟨trimmed text, form⟩
  | .error flaw => .error (.invalid text flaw)

theorem prependToFirst_ne_nil (cs : List Char) (ps : List (List Char)) :
    prependToFirst cs ps ≠ [] := by
  cases ps <;> simp [prependToFirst]

theorem splitUnescaped_ne_nil (separator : Char → Bool) (s : List Char) (ps : List (List Char))
    (h : splitUnescaped separator s = some ps) : ps ≠ [] := by
  fun_induction splitUnescaped separator s generalizing ps with
  | case1 =>
    obtain rfl := Option.some.inj h
    simp
  | case2 => simp at h
  | case3 c s ih =>
    obtain ⟨qs, _, rfl⟩ := Option.map_eq_some_iff.mp h
    exact prependToFirst_ne_nil _ _
  | case4 c s _ _ ih =>
    obtain ⟨qs, _, rfl⟩ := Option.map_eq_some_iff.mp h
    simp
  | case5 c s _ _ ih =>
    obtain ⟨qs, _, rfl⟩ := Option.map_eq_some_iff.mp h
    exact prependToFirst_ne_nil _ _

end DirectoryClient
