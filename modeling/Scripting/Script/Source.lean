import Scripting.Script.Value

/-!
# What a loop runs over

A source yields its values one after the other (`Source.next?`), so that a loop that ends early
never builds the rest of them.
-/

namespace Scripting.Script

/-- what is left for a loop -/
inductive Source where
  | items (vs : List Value)
  /-- so many whole numbers from `next` on -/
  | numbers (next : Int) (count : Nat)
  /-- whole numbers `step` apart -/
  | steps (next last step : Int)
  /-- floating-point numbers `step` apart, which `ascend` or not -/
  | floatSteps (next last step : Float) (ascend : Bool)

namespace Source

/-- what a loop over a value runs over, if it can -/
def ofValue? : Value → Option Source
  | .list vs => some (items vs)
  | .text s => some (items (s.toList.map .char))
  | .bytes bs => some (items (bs.map fun b => .int b.toNat))
  | .range first last inclusive =>
    some (numbers first ((last - first).toNat + (if inclusive && first ≤ last then 1 else 0)))
  | .steps first last step => some (steps first last step)
  | .floatSteps first last step =>
    some (floatSteps first last step (decide (first < first + step)))
  | _ => none

/-- whether a number has 64 bits -/
def fits (i : Int) : Bool := decide (-Value.limit63 ≤ i) && decide (i < Value.limit63)

/-- The next value, and what is left behind it.  Steps end before a number that would not fit. -/
def next? : Source → Option (Value × Source)
  | items [] => none
  | items (v :: vs) => some (v, items vs)
  | numbers _ 0 => none
  | numbers i (n + 1) => some (.int i, numbers (i + 1) n)
  | steps i last step =>
    if fits (i + step) && (if 0 < step then decide (i < last) else decide (last < i)) then
      some (.int i, steps (i + step) last step)
    else none
  | floatSteps x last step ascend =>
    if if ascend then last ≤ x else x ≤ last then none
    else some (.float x, floatSteps (x + step) last step ascend)

end Source

end Scripting.Script
