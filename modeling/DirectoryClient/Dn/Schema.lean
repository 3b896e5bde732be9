import DirectoryClient.Dn.Reading
import DirectoryClient.Text.Casing

/-!
# Schemas

A schema knows the canonical names of attribute types and the canonical forms of values.  A name is
qualified by normalising every assertion and putting the assertions of each relative name in order,
so that names are compared as sets of assertions.

* `Schema`                  the two functions;
* `Schema.qualify`          the qualified form of a name;
* `Schema.parseQualified`   a text parsed and qualified;
* `Schema.caseIgnore`       values without regard to letter case and spacing, for a given notion of
                            lower case;
* `Schema.standard`         the same with full lower case;
* `Schema.ofNames`          a table of types, values as they are.
-/

namespace DirectoryClient

open DirectoryClient.Text

structure Schema where
  /-- the canonical name of a type, none if it is unknown -/
  normalizeType : String → Option String
  /-- the canonical form of a value of a type with a canonical name -/
  normalizeValue : String → String → String

/-- the order of assertions: by type, then by value -/
def Ava.le (a b : Ava) : Bool := a.type < b.type || (a.type == b.type && a.value ≤ b.value)

namespace Schema

def qualifyAva (s : Schema) (text : String) (a : Ava) : Except DnError Ava :=
  match s.normalizeType a.type with
  | some type => .ok ⟨type, s.normalizeValue type a.value⟩
  | none => .error (.unknownType text a.type)

def qualifyRdn (s : Schema) (text : String) (r : Rdn) : Except DnError Rdn :=
  (r.mapM (s.qualifyAva text)).map fun avas => avas.mergeSort Ava.le

def qualify (s : Schema) (d : Dn) : Except DnError Dn :=
  if d.isExtended then .error (.extendedName d.text)
  else (d.rdns.mapM (s.qualifyRdn d.text)).map fun rdns => ⟨d.text, .qualified rdns⟩

def parseQualified (s : Schema) (text : String) : Except DnError Dn :=
  (Dn.parse text).bind s.qualify

/-- the short names of common naming attributes, by their long names and their numbers -/
def shortNames : List (String × String) := [
  ("commonname", "cn"), ("2.5.4.3", "cn"),
  ("domaincomponent", "dc"), ("0.9.2342.19200300.100.1.25", "dc"),
  ("organizationalunitname", "ou"), ("2.5.4.11", "ou"),
  ("organizationname", "o"), ("2.5.4.10", "o"),
  ("countryname", "c"), ("2.5.4.6", "c"),
  ("localityname", "l"), ("2.5.4.7", "l"),
  ("stateorprovincename", "st"), ("2.5.4.8", "st"),
  ("userid", "uid"), ("0.9.2342.19200300.100.1.1", "uid")]

/-- a type in lower case, by its short name if it has one -/
def shortName (type : String) : Option String :=
  let lower := String.ofList (asciiLower (trim type.toList))
  if lower.isEmpty then none else some ((shortNames.lookup lower).getD lower)

/-- a value with single spaces between its words -/
def foldValue (lower : List Char → List Char) (value : String) : String :=
  String.ofList (lower ([' '].intercalate (words value.toList)))

/-- the schema in which values agree if `lower` makes them equal, whatever their spacing -/
def caseIgnore (lower : List Char → List Char) : Schema :=
  ⟨shortName, fun _ value => foldValue lower value⟩

def standard : Schema := caseIgnore lowercase

/-- the types in a table, found without regard to letter case; values stay as they are -/
def ofNames (names : List (String × String)) : Schema :=
  ⟨fun type => names.lookup (asciiLowered type), fun _ value => value⟩

end Schema

end DirectoryClient
