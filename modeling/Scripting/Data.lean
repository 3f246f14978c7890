/-!
# Host values

The values that cross the boundary between a host and a script: the data model of JSON, with
integers and floating-point numbers kept apart.
-/

namespace Scripting

inductive Data where
  | null
  | bool (b : Bool)
  | int (i : Int)
  | float (x : Float)
  | text (s : String)
  | list (items : List Data)
  | record (fields : List (String × Data))
deriving Inhabited, BEq

/-- the value of a field; the last one of that name counts -/
def Data.field? (name : String) : Data → Option Data
  | .record fields => (fields.reverse.find? fun f => f.1 == name).map (·.2)
  | _ => none

end Scripting
