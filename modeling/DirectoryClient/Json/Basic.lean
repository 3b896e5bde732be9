/-!
# JSON values

* `Json`     null, truth values, whole and floating-point numbers, strings, arrays and objects; an
             object keeps its members in the order in which they were written;
* `member?`  the value of a member.
-/

namespace DirectoryClient

inductive Json
  | null
  | bool (b : Bool)
  | int (n : Int)
  | float (x : Float)
  | str (s : String)
  | arr (items : List Json)
  | obj (members : List (String × Json))
  deriving Inhabited

namespace Json

/-- The value of the member `name` in a list of members; the last one counts. -/
def lookup (name : String) : List (String × Json) → Option Json
  | [] => none
  | (key, value) :: rest =>
    match lookup name rest with
    | some v => some v
    | none => if key = name then some value else none

def member? (name : String) : Json → Option Json
  | .obj members => lookup name members
  | _ => none

/-- a string, or null -/
def ofString? : Option String → Json
  | some s => .str s
  | none => .null

/-- a list of strings -/
def strings (l : List String) : Json := .arr (l.map .str)

end Json

end DirectoryClient
