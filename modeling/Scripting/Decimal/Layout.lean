import Scripting.Decimal.Shortest

/-!
# Writing floating-point numbers

A layout says which magnitudes are written in positional notation and which with an exponent.  The
digits are always the shortest that read back.
-/

namespace Scripting.Decimal

/-- how a finite number is laid out -/
structure Layout where
  /-- positional notation for this decimal? -/
  positional : Scaled → Bool
  /-- written between the mantissa and a non-negative exponent -/
  exponentMark : String
  /-- whether a negative zero keeps its sign -/
  signedZero : Bool

def digitsOf (n : Nat) : String := toString n

/-- number of digits before the point, zero or negative for numbers below one -/
def Scaled.pointAt (d : Scaled) : Int := (digitCount d.digits : Int) + d.exp

def zeros (n : Nat) : String := String.ofList (List.replicate n '0')

/-- positional notation, always with a digit after the point -/
def plain (d : Scaled) : String :=
  let ds := digitsOf d.digits
  let k := d.pointAt
  if 0 ≤ d.exp then ds ++ zeros d.exp.toNat ++ ".0"
  else if 0 < k then
    String.ofList (ds.toList.take k.toNat) ++ "." ++ String.ofList (ds.toList.drop k.toNat)
  else "0." ++ zeros (-k).toNat ++ ds

/-- one digit before the point, and an exponent -/
def scientific (mark : String) (d : Scaled) : String :=
  let ds := (digitsOf d.digits).toList
  let e := d.pointAt - 1
  let mantissa := String.ofList (ds.take 1) ++
    (if ds.length ≤ 1 then "" else "." ++ String.ofList (ds.drop 1))
  mantissa ++ (if 0 ≤ e then mark else "e") ++ toString e

/-- a floating-point number in the given layout -/
def Layout.write (l : Layout) (x : Float) : String :=
  let (negative, exponent, fraction) := fields x.toBits.toNat
  let sign := if negative then "-" else ""
  if exponent = 2047 then (if fraction = 0 then sign ++ "inf" else "NaN")
  else if exponent = 0 ∧ fraction = 0 then (if l.signedZero then sign else "") ++ "0.0"
  else
    let d := shortest (magnitude exponent fraction)
    sign ++ (if l.positional d then plain d else scientific l.exponentMark d)

/-- data documents and messages about them: positional from 1e-5 up to 1e16 -/
def Layout.document : Layout :=
  ⟨fun d => decide (-5 < d.pointAt) && decide (d.pointAt ≤ 16), "e+", true⟩

/-- values inside containers: positional from 1e-4 up to 1e16 -/
def Layout.inner : Layout :=
  ⟨fun d => decide (-4 < d.pointAt) && decide (d.pointAt ≤ 16), "e", true⟩

/-- whether the first of two decimals is at most the second -/
def Scaled.atMost (a b : Scaled) : Bool :=
  decide (a.digits * Nat.pow 10 (a.exp - b.exp).toNat ≤ b.digits * Nat.pow 10 (b.exp - a.exp).toNat)

/-- the least magnitude, and the greatest one, that is written out where a number stands on its own:
1e-13 and 1e13, rounded to 24 binary digits -/
def aloneLeast : Scaled := ⟨99999998245167, -27⟩
def aloneMost : Scaled := ⟨9999999827968, 0⟩

/-- values on their own -/
def Layout.outer : Layout :=
  ⟨fun d => aloneLeast.atMost d && d.atMost aloneMost, "e", false⟩

end Scripting.Decimal
