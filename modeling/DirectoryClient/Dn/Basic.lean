/-!
# Distinguished names

A distinguished name (DN) is a list of relative names (RDNs), the leaf first; a relative name is a
list of attribute assertions (AVAs).  A name is plain as it was parsed, or qualified once a schema
has normalised its types and values.  An extended name (`<GUID=…>`) has no relative names.

* `Ava`, `Rdn`, `Dn`       the types;
* `Dn.same`                equality of names; it looks neither at the text nor at whether the name
                           is qualified;
* `Dn.isAncestorOf`        a proper suffix of the relative names;
* `DnError`                why a text is no name, or a name cannot be qualified.

`same_refl`, `same_comm` and `not_isAncestorOf_self` are the first laws of the two relations.
-/

namespace DirectoryClient

/-- one `type=value` assertion -/
structure Ava where
  type : String
  value : String
  deriving DecidableEq, Repr

/-- one or more assertions, joined by `+` -/
abbrev Rdn := List Ava

inductive Dn.Form
  | plain (rdns : List Rdn)
  | qualified (rdns : List Rdn)
  | extended
  deriving DecidableEq, Repr

/-- a name and the text that it was read from -/
structure Dn where
  text : String
  form : Dn.Form
  deriving DecidableEq, Repr

/-- why a text is no distinguished name -/
inductive DnFlaw
  | unterminatedExtended
  | trailingBackslash
  | emptyComponent
  /-- an assertion without `=` -/
  | missingEquals (assertion : String)
  | invalidType (type : String)
  | invalidUtf8
  deriving DecidableEq, Repr

inductive DnError
  | invalid (text : String) (flaw : DnFlaw)
  /-- an extended name has nothing that a schema could normalise -/
  | extendedName (text : String)
  /-- the schema does not know the type -/
  | unknownType (text : String) (type : String)
  deriving DecidableEq, Repr

def DnFlaw.message : DnFlaw → String
  | .unterminatedExtended => "unterminated extended DN component"
  | .trailingBackslash => "trailing backslash"
  | .emptyComponent => "empty RDN component"
  | .missingEquals s => "missing '=' in '" ++ s ++ "'"
  | .invalidType t => "invalid attribute type '" ++ t ++ "'"
  | .invalidUtf8 => "escaped bytes are not valid UTF-8"

def DnError.message : DnError → String
  | .invalid text flaw => "invalid DN '" ++ text ++ "': " ++ flaw.message
  | .extendedName text =>
    "DN '" ++ text ++ "' cannot be schema-qualified: extended DNs carry no naming attributes"
  | .unknownType text type =>
    "DN '" ++ text ++ "' cannot be schema-qualified: unknown attribute type '" ++ type ++ "'"

namespace Dn

/-- the name above all others -/
def root : Dn := ⟨"", .plain []⟩

def rdns (d : Dn) : List Rdn :=
  match d.form with
  | .plain rdns => rdns
  | .qualified rdns => rdns
  | .extended => []

def isExtended (d : Dn) : Bool := d.form == .extended

def isQualified (d : Dn) : Bool :=
  match d.form with
  | .qualified _ => true
  | _ => false

def isRoot (d : Dn) : Bool := !d.isExtended && d.rdns.isEmpty

/-- the text up to the case of ASCII letters, by which extended names are told apart -/
def foldedText (d : Dn) : List Char := d.text.toList.map Char.toLower

/-- whether two names are the same: extended names by their text, others by their relative names -/
def same (a b : Dn) : Bool :=
  match a.isExtended, b.isExtended with
  | true, true => a.foldedText == b.foldedText
  | false, false => a.rdns == b.rdns
  | _, _ => false

/-- whether `a` is properly above `b` -/
def isAncestorOf (a b : Dn) : Bool :=
  !a.isExtended && !b.isExtended && a.rdns.length < b.rdns.length && a.rdns.isSuffixOf b.rdns

/-- whether `a` is properly below `b` -/
def isDescendantOf (a b : Dn) : Bool := b.isAncestorOf a

theorem same_refl (a : Dn) : a.same a = true := by
  cases h : a.isExtended <;> simp [same, h]

theorem same_comm (a b : Dn) : a.same b = b.same a := by
  cases ha : a.isExtended <;> cases hb : b.isExtended <;> simp [same, ha, hb, Bool.beq_comm]

theorem not_isAncestorOf_self (a : Dn) : a.isAncestorOf a = false := by
  simp [isAncestorOf]

end Dn

end DirectoryClient
