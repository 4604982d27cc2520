import Flotilla.Index
import Flotilla.Json.Binary64

/-!
# JSON values

A value is what a JSON text stands for. Numbers are integers of 64 bits, signed or
unsigned, or finite doubles. The members of an object are listed by ascending
name and no name occurs twice; `Json.object` brings any list of members into that
form, the last of equal names winning. Records with a fixed member order are
written with `Json.record`, which keeps the order it is given.
-/

namespace Flotilla

/-- A JSON value. -/
inductive Json where
  | null
  | bool (b : Bool)
  | int (i : Int)
  | float (x : Binary64)
  | str (s : String)
  | arr (items : List Json)
  | obj (members : List (String × Json))

namespace Json

/-- Members by ascending name, with `value` under `name`. -/
def setMember (name : String) (value : Json) : List (String × Json) → List (String × Json) :=
  Index.insertEntry name value

/-- The object of the given members, by ascending name; of equal names the last counts. -/
def object (members : List (String × Json)) : Json :=
  .obj (members.foldl (fun sorted member => setMember member.1 member.2 sorted) [])

/-- The object of the given members, in the order given. -/
def record (members : List (String × Json)) : Json := .obj members

/-- The value of a natural number. -/
def nat (n : Nat) : Json := .int n

/-- The array of the texts of a list. -/
def strings (texts : List String) : Json := .arr (texts.map .str)

/-- The first member of the given name. -/
def member? (name : String) : Json → Option Json
  | .obj members => (members.find? fun member => member.1 = name).map (·.2)
  | _ => none

end Json

end Flotilla
