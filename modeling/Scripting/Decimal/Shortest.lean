/-!
# Shortest decimals

The fewest decimal digits that read back as a given binary number.  A positive finite double is
`m * 2 ^ q`; the reals that round to it form an interval around it, with both ends included exactly
if `m` is even.  On the grid of decimals with `n` digits the value has two neighbours, and the first
`n` for which one of them lies in the interval is taken; of two, the nearer one.

All arithmetic is on natural numbers.  Every quantity is a fraction over one common denominator.
-/

namespace Scripting.Decimal

/-- the number `mant * 2 ^ exp` -/
structure Binary where
  mant : Nat
  exp : Int
deriving Repr, DecidableEq, Inhabited

/-- the number `digits * 10 ^ exp` -/
structure Scaled where
  digits : Nat
  exp : Int
deriving Repr, DecidableEq, Inhabited

/-- sign bit, exponent field and fraction field of a double -/
def fields (bits : Nat) : Bool × Nat × Nat :=
  (bits / Nat.pow 2 63 == 1, bits / Nat.pow 2 52 % 2048, bits % Nat.pow 2 52)

/-- magnitude of a finite double from its exponent and fraction fields -/
def magnitude (exponent fraction : Nat) : Binary :=
  if exponent = 0 then ⟨fraction, -1074⟩ else ⟨Nat.pow 2 52 + fraction, (exponent : Int) - 1075⟩

/-- The interval of reals that round to `b`, times `4 * den`, as (lower end, value, upper end), and
`den`.  Below a power of two the numbers lie twice as dense, so the lower half-gap is half as wide
there. -/
def interval (b : Binary) : Nat × Nat × Nat × Nat :=
  let low := if b.mant = Nat.pow 2 52 ∧ b.exp > -1074 then 1 else 2
  let scale := if 0 ≤ b.exp then Nat.pow 2 b.exp.toNat else 1
  let den := if 0 ≤ b.exp then 1 else Nat.pow 2 (-b.exp).toNat
  ((4 * b.mant - low) * scale, 4 * b.mant * scale, (4 * b.mant + 2) * scale, den)

/-- number of decimal digits of `n` -/
def digitCount (n : Nat) : Nat := if _h : n < 10 then 1 else digitCount (n / 10) + 1
termination_by n
decreasing_by omega

/-- the least `j ≥ 1` with `den ≤ num * 10 ^ j`, looking no further than `fuel` places -/
def leadingZeros (num den : Nat) : Nat → Nat
  | 0 => 1
  | fuel + 1 => if den ≤ num * 10 then 1 else leadingZeros (num * 10) den fuel + 1

/-- the power of ten of the leading digit of `num / den` -/
def leadingPower (num den : Nat) : Int :=
  if den ≤ num then (digitCount (num / den) : Int) - 1 else -(leadingZeros num den 400 : Int)

/-- the better of the two neighbours of `b` among the multiples of `10 ^ e`, if one rounds to `b` -/
def onGrid? (b : Binary) (e : Int) : Option Nat :=
  let (lo, val, hi, den) := interval b
  let up := 4 * den * (if 0 ≤ e then Nat.pow 10 e.toNat else 1)
  let down := if 0 ≤ e then 1 else Nat.pow 10 (-e).toNat
  let d := val * down / up
  let fits (k : Nat) : Bool :=
    if b.mant % 2 = 0 then decide (lo * down ≤ k * up) && decide (k * up ≤ hi * down)
    else decide (lo * down < k * up) && decide (k * up < hi * down)
  let below := val * down - d * up
  let above := (d + 1) * up - val * down
  match fits d, fits (d + 1) with
  | true, true => if below < above ∨ (below = above ∧ d % 2 = 0) then some d else some (d + 1)
  | true, false => some d
  | false, true => some (d + 1)
  | false, false => none

/-- the first grid, from `n` digits on, that holds a number that rounds to `b` -/
def fromGrid (b : Binary) (top : Int) : Nat → Nat → Scaled
  | 0, _ => ⟨0, 0⟩
  | fuel + 1, n =>
    let e := top - (n : Int) + 1
    match onGrid? b e with
    | some d => ⟨d, e⟩
    | none => fromGrid b top fuel (n + 1)

/-- without the zeros at the end of the digits -/
def Scaled.strip (d : Scaled) : Nat → Scaled
  | 0 => d
  | fuel + 1 =>
    if d.digits ≠ 0 ∧ d.digits % 10 = 0 then strip ⟨d.digits / 10, d.exp + 1⟩ fuel else d

/-- the shortest decimal that reads back as `b` -/
def shortest (b : Binary) : Scaled :=
  let (_, val, _, den) := interval b
  (fromGrid b (leadingPower val (4 * den)) 18 1).strip 20

end Scripting.Decimal
