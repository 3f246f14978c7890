import Mathlib.Algebra.Order.Ring.Int

/-!
# Whole numbers as floating-point numbers

A whole number that no 64 bits hold becomes a floating-point number.  That is made of a mantissa and
an exponent: rounding cuts the mantissa down to the bits there are and raises the exponent for it.
The exponent of a number of moderate size stays far below the greatest one, so it is a number.

* `mantissa_shiftRight_le`, `roundedMantissa_le`   rounding hardly makes a mantissa greater;
* `exponent_round_le`    nor the exponent;
* `isFinite_of_exponent_le`   a number with a small exponent is packed as a number;
* `finite_ofInt`         so a whole number up to 2 ^ 64 is finite as a floating-point number.
-/

namespace Scripting.Script.Magnitude

open Float.Model (Format)
open Float.Model.UnpackedFloat

theorem mantissa_shiftRight_le (em : ExtendedMantissa) (n : Nat) :
    (em >>> n).mantissa ≤ em.mantissa := by
  show (n.repeat ExtendedMantissa.shiftRightOne em).mantissa ≤ _
  induction n with
  | zero => exact Nat.le_refl _
  | succ n ih => exact Nat.le_trans (Nat.div_le_self _ 2) ih

theorem roundedMantissa_le (em : ExtendedMantissa) : em.roundedMantissa ≤ em.mantissa + 1 := by
  obtain ⟨m, r, s⟩ := em
  unfold ExtendedMantissa.roundedMantissa
  cases r <;> cases s <;>
    simp only [ExtendedMantissa.accuracy, Accuracy.roundToNearestEven] <;> omega

theorem exponent_shift (m : Nat) (e : Int) (a : Accuracy) :
    (shiftToTargetExponent Format.binary64 m e a).2 =
      max e (max (m.log2 + 1 + e - 53) (-1074)) := by
  show e + ((max (m.log2 + 1 + e - 53) (-1074) - e).toNat : Int) = _
  omega

theorem mantissa_shift_le (m : Nat) (e : Int) :
    (shiftToTargetExponent Format.binary64 m e .exact).1.mantissa ≤ m :=
  mantissa_shiftRight_le ..

theorem log2_le {m k : Nat} (h : m ≤ 2 ^ k) : m.log2 ≤ k := by
  by_cases hm : m = 0
  · rw [hm, Nat.log2_zero]
    exact Nat.zero_le k
  · have hlt : m < 2 ^ (k + 1) := Nat.lt_of_le_of_lt h (Nat.pow_lt_pow_right (by omega) (by omega))
    exact Nat.le_of_lt_succ ((Nat.log2_lt hm).mpr hlt)

/-- the number is read back as one, neither infinite nor none -/
def Packs (f : Float.Model.UnpackedFloat) : Prop :=
  (Float.Model.UnpackedFloat.unpack Format.binary64
    (Float.Model.UnpackedFloat.pack Format.binary64 f)).isFinite = true

/-- a packed number whose exponent bits are not all set is one -/
theorem isFinite_unpack (b : BitVec Format.binary64.numBits)
    (h : unpackExponent b ≠ (-1#_ : BitVec Format.binary64.exponentBits)) :
    (Float.Model.UnpackedFloat.unpack Format.binary64 b).isFinite = true := by
  unfold Float.Model.UnpackedFloat.unpack
  dsimp only
  rw [if_neg h]
  by_cases subnormal : unpackExponent b = 0#_
  · rw [if_pos subnormal]
    by_cases none : unpackMantissa b = 0#_
    · rw [dif_pos none]
      rfl
    · rw [dif_neg none]
      rfl
  · rw [if_neg subnormal]
    rfl

theorem packs_zero (s : Sign) : Packs (.zero s) := by
  apply isFinite_unpack
  show unpackExponent (packedZero Format.binary64 s) ≠ _
  rw [packedZero, unpackExponent_packComponents]
  decide

theorem packs_of_exponent_le (s : Sign) {m : Nat} (hm : 0 < m) {e : Int} (he : e ≤ 900) :
    Packs (.finite s m e hm) := by
  apply isFinite_unpack
  have biased : (e + (1023 : Nat) + (52 : Nat)).toNat < 2047 := by omega
  unfold Float.Model.UnpackedFloat.pack
  dsimp only
  split
  · rename_i h
    have h : 2048 ≤ (e + (1023 : Nat) + (52 : Nat)).toNat + 1 := h
    omega
  · split
    · rw [unpackExponent_packComponents]
      intro h
      have h : (e + (1023 : Nat) + (52 : Nat)).toNat % 2048 = 2047 := congrArg BitVec.toNat h
      omega
    · rw [unpackExponent_packComponents]
      decide

/-- **Rounding.**  A mantissa of at most 200 bits leaves the exponent small. -/
theorem packs_round (s : Sign) {m : Nat} (hm : m < 2 ^ 200) {e : Int} (he : e ≤ 0) :
    Packs (roundWithAccuracy Format.binary64 s m e .exact) := by
  unfold roundWithAccuracy
  -- rounding shifts twice: once to the bits there are, and once more if that filled them up
  have h1 := exponent_shift m e .exact
  have h2 := mantissa_shift_le m e
  generalize shiftToTargetExponent Format.binary64 m e .exact = first at h1 h2
  obtain ⟨em, e1⟩ := first
  dsimp only at h1 h2 ⊢
  have h3 := exponent_shift em.roundedMantissa e1 .exact
  generalize shiftToTargetExponent Format.binary64 em.roundedMantissa e1 .exact = second at h3
  obtain ⟨em2, e2⟩ := second
  dsimp only at h3 ⊢
  have hm' : m.log2 ≤ 200 := log2_le (Nat.le_of_lt hm)
  have hr : em.roundedMantissa.log2 ≤ 200 :=
    log2_le (Nat.le_trans (roundedMantissa_le em) (Nat.le_trans (Nat.succ_le_succ h2) hm))
  by_cases none : em2.mantissa = 0
  · rw [dif_pos none]
    exact packs_zero s
  · rw [dif_neg none]
    exact packs_of_exponent_le s _ (by omega)

theorem mul_finite (s s' : Sign) (m m' : Nat) (e e' : Int) (h : 0 < m) (h' : 0 < m') :
    mul Format.binary64 (.finite s m e h) (.finite s' m' e' h') =
      roundWithAccuracy Format.binary64 (s * s') (m * m') (e + e') .exact := rfl

/-- a whole number is a mantissa with 53 bits behind the point, times a one -/
theorem packs_ofScientific {n : Nat} (hn : n ≠ 0) (h : n < 2 ^ 64) :
    Packs (ofScientific Format.binary64 n 0) := by
  have below : ¬ (0 : Int) < -((2 ^ Format.binary64.exponentBits : Int) + n.log2) := by
    have : (0 : Int) ≤ 2 ^ Format.binary64.exponentBits := by decide
    omega
  have hm : n <<< Format.binary64.mantissaBits * 10 ^ (0 : Int).toNat < 2 ^ 200 := by
    show n <<< 53 * 1 < 2 ^ 200
    rw [Nat.shiftLeft_eq]
    omega
  unfold ofScientific
  rw [dif_neg hn, if_neg (by decide), if_neg below, if_pos (Int.le_refl 0), mul_finite]
  exact packs_round _ hm (by decide)

/-- **A whole number of 64 bits is finite as a floating-point number.** -/
theorem finite_ofInt {i : Int} (h53 : 2 ^ 53 ≤ i) (h64 : i < 2 ^ 64) :
    (Float.ofInt i).isNaN = false ∧ (Float.ofInt i).isInf = false := by
  obtain ⟨n, rfl⟩ := Int.eq_ofNat_of_zero_le (Int.le_trans (by decide) h53)
  have hn : Float.ofInt n = .ofModel (Float.Model.ofScientific n 0) := by
    show Float.ofScientific n false 0 = _
    unfold Float.ofScientific
    rw [dif_neg (by omega)]
    rfl
  have hp : Packs (ofScientific Format.binary64 n 0) :=
    packs_ofScientific (by omega) (by omega)
  rw [hn]
  show (Float.Model.UnpackedFloat.unpack _ (Float.Model.UnpackedFloat.pack _ _)).isNaN = false ∧
    (Float.Model.UnpackedFloat.unpack _ (Float.Model.UnpackedFloat.pack _ _)).isInf = false
  unfold Packs at hp
  generalize Float.Model.UnpackedFloat.unpack _ _ = f at hp ⊢
  cases f with
  | infinity s => cases hp
  | notANumber => cases hp
  | zero s => exact ⟨rfl, rfl⟩
  | finite s m e hm => exact ⟨rfl, rfl⟩

end Scripting.Script.Magnitude
