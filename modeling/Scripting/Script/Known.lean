import Scripting.Script.Syntax

/-!
# Expressions whose value is known

The value of a literal, of a list, record or text whose parts are all known, and of a function that
takes nothing along can be read off the expression (`Expr.known?`); nothing has to be run for it.
-/

namespace Scripting.Script

namespace Expr

/-- fields by their names, of two with one name the later -/
def fieldsOf (fields : List (String × Value)) : Value := .record (Assoc.ofList fields)

mutual

/-- the value of an expression, if it can be read off -/
def known? : Expr → Option Value
  | unit _ => some .unit
  | bool b _ => some (.bool b)
  | int i _ => some (.int i)
  | float x _ => some (.float x)
  | text s _ => some (.text s)
  | char c _ => some (.char c)
  | value v _ => some v
  | joined parts _ => (knownAll? parts).map fun vs => .text (String.join (vs.map Value.shown))
  | list items _ => (knownAll? items).map .list
  | record fields _ => (knownFields? fields).map fieldsOf
  | closure fn [] _ => some (.function fn [])
  | _ => none

def knownAll? : List Expr → Option (List Value)
  | [] => some []
  | e :: es =>
    match e.known?, knownAll? es with
    | some v, some vs => some (v :: vs)
    | _, _ => none

def knownFields? : List (Ident × Expr) → Option (List (String × Value))
  | [] => some []
  | (id, e) :: rest =>
    match e.known?, knownFields? rest with
    | some v, some fields => some ((id.name, v) :: fields)
    | _, _ => none

end

/-- an expression that has a value -/
def ofValue (pos : Pos) : Value → Expr
  | .unit => unit pos
  | .bool b => bool b pos
  | .int i => int i pos
  | .float x => float x pos
  | .text s => text s pos
  | .char c => char c pos
  | v => value v pos

end Expr

end Scripting.Script
