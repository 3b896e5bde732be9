import DirectoryClient.Text.Quoted
import DirectoryClient.Decimal.Layout

/-!
# Inspection text

How values look in diagnostics: strings between quotes, records by the names of their fields, a
value that may be missing as `Some(…)` or `None`.

* `Inspection`         what is shown;
* `Inspection.text`    how it looks; a record that does not show all of its fields ends in two dots.
-/

namespace DirectoryClient

inductive Inspection
  /-- shown as it is -/
  | word (s : String)
  | string (s : String)
  | missing
  | present (x : Inspection)
  | list (items : List Inspection)
  | record (name : String) (fields : List (String × Inspection)) (complete : Bool)

namespace Inspection

/-- Numbers have an exponent below 0.0001 and from seventeen digits on. -/
def numbers : Decimal.Layout := ⟨-4, 15, false, .away⟩

def ofBool (b : Bool) : Inspection := .word (if b then "true" else "false")
def ofNat (n : Nat) : Inspection := .word (toString n)
def ofInt (n : Int) : Inspection := .word (toString n)
def ofFloat (x : Float) : Inspection := .word (String.ofList (numbers.write x))
def ofStrings (l : List String) : Inspection := .list (l.map .string)

/-- a value that may be missing -/
def ofOption {α : Type} (f : α → Inspection) : Option α → Inspection
  | some a => .present (f a)
  | none => .missing

mutual

def text : Inspection → String
  | .word s => s
  | .string s => Text.quoted s
  | .missing => "None"
  | .present x => "Some(" ++ text x ++ ")"
  | .list items => "[" ++ ", ".intercalate (texts items) ++ "]"
  | .record name fields complete =>
    name ++ " \x7b " ++ ", ".intercalate (fieldTexts fields ++ if complete then [] else [".."]) ++
      " \x7d"

def texts : List Inspection → List String
  | [] => []
  | x :: xs => text x :: texts xs

def fieldTexts : List (String × Inspection) → List String
  | [] => []
  | (name, x) :: fields => (name ++ ": " ++ text x) :: fieldTexts fields

end

end Inspection

end DirectoryClient
