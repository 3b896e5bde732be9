import DirectoryClient.Json.Place
import DirectoryClient.Json.Printer
import DirectoryClient.Text.Quoted

/-!
# Reading typed values from JSON

* `Mismatch`      why a JSON value does not fit, with `Mismatch.message` for its wording;
* `asString`, `asBool`, `asUnsigned`, …   the values of plain types;
* `Field`, `Shape`   a record as a list of fields, each with a way to set it;
* `Shape.read`    a record from an object or from an array.

The members of an object are read in the order of their names and the first mismatch counts;
unknown members are passed over, and a required field that is missing is found last.  An array
gives the fields in the order of their declaration.
-/

namespace DirectoryClient.Json

open DirectoryClient.Text

/-- a value as messages name it; numbers are written as in JSON -/
def shown : Json → String
  | .null => "null"
  | .bool b => "boolean `" ++ (if b then "true" else "false") ++ "`"
  | .int n => "integer `" ++ toString n ++ "`"
  | .float x => "floating point `" ++ String.ofList (floatText x) ++ "`"
  | .str s => "string " ++ quoted s
  | .arr _ => "sequence"
  | .obj _ => "map"

inductive Mismatch
  | invalidType (found : Json) (expected : String)
  | invalidValue (found : Json) (expected : String)
  | invalidLength (length : Nat) (expected : String)
  | unknownVariant (name : String) (known : List String)
  | missingField (name : String)
  /-- the value has the right form, but its type has a rule of its own -/
  | refused (reason : String)

def Mismatch.message : Mismatch → String
  | .invalidType found expected => "invalid type: " ++ found.shown ++ ", expected " ++ expected
  | .invalidValue found expected => "invalid value: " ++ found.shown ++ ", expected " ++ expected
  | .invalidLength n expected => "invalid length " ++ toString n ++ ", expected " ++ expected
  | .unknownVariant name known =>
    "unknown variant `" ++ name ++ "`, expected one of " ++
      ", ".intercalate (known.map fun k => "`" ++ k ++ "`")
  | .missingField name => "missing field `" ++ name ++ "`"
  | .refused reason => settled reason

abbrev Reading (α : Type) := Except Mismatch α

def asString : Json → Reading String
  | .str s => .ok s
  | j => .error (.invalidType j "a string")

def asBool : Json → Reading Bool
  | .bool b => .ok b
  | j => .error (.invalidType j "a boolean")

/-- a whole number between two bounds; `kind` is its name in messages -/
def asWhole (kind : String) (low high : Int) : Json → Reading Int
  | .int n => if low ≤ n ∧ n ≤ high then .ok n else .error (.invalidValue (.int n) kind)
  | j => .error (.invalidType j kind)

def asUInt16 (j : Json) : Reading UInt16 :=
  (asWhole "u16" 0 (UInt16.size - 1) j).map fun n => UInt16.ofNat n.toNat
def asUInt32 (j : Json) : Reading UInt32 :=
  (asWhole "u32" 0 (UInt32.size - 1) j).map fun n => UInt32.ofNat n.toNat
def asUInt64 (j : Json) : Reading UInt64 :=
  (asWhole "u64" 0 (UInt64.size - 1) j).map fun n => UInt64.ofNat n.toNat
def asInt32 (j : Json) : Reading Int32 :=
  (asWhole "i32" Int32.minValue.toInt Int32.maxValue.toInt j).map Int32.ofInt

def asFloat : Json → Reading Float
  | .float x => .ok x
  | .int n =>
    .ok (if n < 0 then -(UInt64.ofNat n.natAbs).toFloat else (UInt64.ofNat n.toNat).toFloat)
  | j => .error (.invalidType j "f64")

/-- null stands for no value -/
def asOption {α : Type} (read : Json → Reading α) : Json → Reading (Option α)
  | .null => .ok none
  | j => (read j).map some

def asList {α : Type} (read : Json → Reading α) : Json → Reading (List α)
  | .arr items => items.mapM read
  | j => .error (.invalidType j "a sequence")

structure Field (α : Type) where
  name : String
  set : Json → α → Reading α
  required : Bool := false

/-- a field whose value is read by `read` and stored by `store` -/
def Field.of {α β : Type} (name : String) (read : Json → Reading β) (store : β → α → α) : Field α :=
  ⟨name, fun j a => (read j).map (store · a), false⟩

structure Shape (α : Type) where
  name : String
  /-- the fields in the order of their names -/
  fields : List (Field α)
  /-- the names in the order of declaration -/
  declared : List String

def Shape.title {α : Type} (s : Shape α) : String := "struct " ++ s.name

/-- what the members say about the fields, one after the other -/
def setFields {α : Type} (members : List (String × Json)) (a : α) (fields : List (Field α)) :
    Reading α :=
  fields.foldlM (fun a f => match lookup f.name members with
    | some j => f.set j a
    | none => .ok a) a

/-- what the items say about the fields; `i` items have been read -/
def setInOrder {α : Type} (s : Shape α) (i : Nat) (a : α) : List (Field α) → List Json → Reading α
  | [], _ => .ok a
  | f :: fields, j :: items => do
    let a ← f.set j a
    setInOrder s (i + 1) a fields items
  | f :: fields, [] =>
    if f.required then
      .error (.invalidLength i
        (s.title ++ " with " ++ toString s.declared.length ++ " elements"))
    else setInOrder s (i + 1) a fields []

/-- `start` holds the values of the fields that are not given. -/
def Shape.read {α : Type} (s : Shape α) (start : α) : Json → Reading α
  | .obj members => do
    let a ← setFields members start s.fields
    match s.fields.find? fun f => f.required && (lookup f.name members).isNone with
    | some f => .error (.missingField f.name)
    | none => .ok a
  | .arr items => do
    let a ← setInOrder s 0 start
      (s.declared.filterMap fun n => s.fields.find? fun f => f.name == n) items
    if s.declared.length < items.length then
      .error (.invalidLength items.length "fewer elements in array")
    else .ok a
  | j => .error (.invalidType j s.title)

end DirectoryClient.Json
