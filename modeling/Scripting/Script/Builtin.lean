import Scripting.Script.Place

/-!
# Builtin functions

The functions that every script may call, as functions or as methods of their first argument.  Those
here need nothing but their arguments; calling functions, printing and mapping are left to the
evaluation.
-/

namespace Scripting.Script

namespace Builtin

/-- what a call answers, and its first argument afterwards -/
structure Answer where
  value : Value
  first : Option Value := none

/-- so many bytes with one value -/
def bytes (n : Int) (b : Int) : Value :=
  .bytes (List.replicate n.toNat (UInt8.ofNat (b % 256).toNat))

def noStep : Cause := .arithmetic "step value cannot be zero"

/-- whole numbers a step apart -/
def steps (first last step : Int) : Except Cause Value :=
  if step = 0 then .error noStep else .ok (.steps first last step)

/-- floating-point numbers a step apart, which has to lead away from the first one -/
def floatSteps (first last step : Float) : Except Cause Value :=
  if first + step == first then .error noStep else .ok (.floatSteps first last step)

/-- an answer that changes nothing -/
def answer (v : Value) : Except Cause Answer := .ok ⟨v, none⟩

/-- a call that needs nothing but its arguments -/
def call? (name : String) (args : List Value) : Option (Except Cause Answer) :=
  match name, args with
  | "type_of", [v] => some (answer (.text v.typeName))
  | "blob", [] => some (answer (.bytes []))
  | "blob", [.int n] => some (answer (bytes n 0))
  | "blob", [.int n, .int b] => some (answer (bytes n b))
  | "range", [.int a, .int b] => some (answer (.range a b false))
  | "range", [.int a, .int b, .int step] => some ((steps a b step).map (⟨·, none⟩))
  | "range", [.float a, .float b, .float step] => some ((floatSteps a b step).map (⟨·, none⟩))
  | "range", [.range a b false, .int step] => some ((steps a b step).map (⟨·, none⟩))
  | "push", [.list items, v] => some (.ok ⟨.unit, some (.list (items ++ [v]))⟩)
  | "push", [.bytes bs, .int b] =>
    some (.ok ⟨.unit, some (.bytes (bs ++ [UInt8.ofNat (b % 256).toNat]))⟩)
  | "len", [v] => (Place.length? v).map fun n => answer (.int n)
  | "is_empty", [v] => (Place.length? v).map fun n => answer (.bool (n == 0))
  | "to_string", [v] => some (answer (.text v.outer))
  | "to_debug", [v] => some (answer (.text v.inner))
  | _, _ => none

end Builtin

end Scripting.Script
