import DirectoryClient.Text.Casing
import DirectoryClient.Text.Split
import DirectoryClient.Utf8

/-!
# Entries and binary attributes

An attribute whose syntax is binary must not be handled as text, even if its bytes happen to be
text.

* `Entry`                      a name with text attributes and binary attributes;
* `BinaryAttributes`           the names of binary attributes;
* `BinaryAttributes.holds`     whether an attribute is binary: by its name without options, or by
                               the option `binary`;
* `BinaryAttributes.classify`  an entry with its binary attributes moved where they belong.

`get?_extend` says what adding values to an attribute does.
-/

namespace DirectoryClient

open DirectoryClient.Text

/-- attributes by name; a name occurs once -/
abbrev Attributes (α : Type) := List (String × List α)

namespace Attributes

def get? {α : Type} (m : Attributes α) (name : String) : Option (List α) := m.lookup name

/-- `values` added to those of an attribute, which is new if it has none -/
def extend {α : Type} (name : String) (values : List α) : Attributes α → Attributes α
  | [] => [(name, values)]
  | (key, vs) :: rest =>
    if key = name then (key, vs ++ values) :: rest else (key, vs) :: extend name values rest

theorem get?_extend_self {α : Type} (name : String) (values : List α) (m : Attributes α) :
    (extend name values m).get? name = some (((m.get? name).getD []) ++ values) := by
  induction m with
  | nil => simp [extend, get?]
  | cons p rest ih =>
    obtain ⟨key, vs⟩ := p
    by_cases h : key = name
    · simp [extend, get?, h]
    · have hb : (name == key) = false := by simpa using Ne.symm h
      simpa [extend, get?, h, List.lookup_cons, hb] using ih

theorem get?_extend_of_ne {α : Type} (name other : String) (values : List α) (m : Attributes α)
    (h : other ≠ name) : (extend name values m).get? other = m.get? other := by
  induction m with
  | nil =>
    have hb : (other == name) = false := by simpa using h
    simp [extend, get?, List.lookup_cons, hb]
  | cons p rest ih =>
    obtain ⟨key, vs⟩ := p
    by_cases hk : key = name
    · have hb : (other == name) = false := by simpa using h
      simp [extend, get?, hk, List.lookup_cons, hb]
    · by_cases ho : other = key
      · simp [extend, get?, hk, ho]
      · have hb : (other == key) = false := by simpa using ho
        simpa [extend, get?, hk, List.lookup_cons, hb] using ih

end Attributes

structure Entry where
  dn : String
  attrs : Attributes String := []
  binAttrs : Attributes (List UInt8) := []
  deriving DecidableEq, Repr

/-- the names of binary attributes, in lower case -/
structure BinaryAttributes where
  names : List String
  deriving DecidableEq

namespace BinaryAttributes

/-- the attributes that are binary in the common schemas -/
def common : List String := [
  "audio", "authorityrevocationlist", "cacertificate", "certificaterevocationlist",
  "crosscertificatepair", "deltarevocationlist", "jpegphoto", "msexchmailboxguid",
  "msexchmailboxsecuritydescriptor", "ntsecuritydescriptor", "objectguid", "objectsid", "photo",
  "sidhistory", "supportedalgorithms", "thumbnailphoto", "tokengroups", "unicodepwd",
  "usercertificate", "userpkcs12", "usersmimecertificate"]

/-- the common ones and more; blank names count for nothing -/
def of (more : List String) : BinaryAttributes :=
  ⟨(common ++ more.map fun n => asciiLowered (trimmed n)).filter fun n => n ≠ ""⟩

/-- the name without options, in lower case, and the options -/
def cutOptions (name : String) : List Char × List (List Char) :=
  match cut (· == ';') name.toList with
  | base :: options => (asciiLower base, options)
  | [] => ([], [])

def isBinaryOption (o : List Char) : Bool := asciiLower o == "binary".toList

def holds (b : BinaryAttributes) (name : String) : Bool :=
  let (base, options) := cutOptions name
  options.any isBinaryOption || b.names.contains (String.ofList base)

/-- Binary values are the bytes of the text values, after the binary values already there. -/
def classify (b : BinaryAttributes) (e : Entry) : Entry where
  dn := e.dn
  attrs := e.attrs.filter fun a => !b.holds a.1
  binAttrs := (e.attrs.filter fun a => b.holds a.1).foldl
    (fun m a => m.extend a.1 (a.2.map Utf8.bytesOf)) e.binAttrs

end BinaryAttributes

end DirectoryClient
