import Mathlib
import FigureScript.Number.Binary64

namespace FigureScript.Binary64

open Float.Model (Format UnpackedFloat)
open Float.Model.UnpackedFloat

/-! # Finite doubles

A double is finite unless all bits of its exponent field are set. Whole numbers of 64 bits are far
below the largest double, so that the doubles nearest to them are finite.
-/

def exponentField (bits : UInt64) : Nat := bits.toNat / fractionCount % 2048

theorem isFinite_iff {value : Float} :
    isFinite value = true ↔ exponentField value.toBits ≠ 2047 := by
  unfold isFinite parts exponentField
  dsimp only
  split
  · rename_i same
    split at same
    · split at same <;> contradiction
    · rename_i field
      simpa using field
  · rename_i other
    split at other
    · rename_i field
      simp [field]
    · split at other <;> simp at other

theorem exponentField_eq (bits : UInt64) :
    exponentField bits = (unpackExponent bits.toBitVec : BitVec Format.binary64.exponentBits).toNat := by
  change bits.toNat / fractionCount % 2048 = (bits.toBitVec.extractLsb 62 52).toNat
  rw [BitVec.extractLsb_toNat, Nat.shiftRight_eq_div_pow]
  rfl

/-- A bit pattern with a bit of its exponent field not set is kept as it is. -/
theorem toBits_ofBits {bits : UInt64} (small : exponentField bits < 2047) :
    (Float.ofBits bits).toBits = bits := by
  rw [exponentField_eq] at small
  have pattern : ¬ @isNaNBits Format.binary64 bits.toBitVec := by
    intro special
    have full := (of_decide_eq_true special).1
    rw [full] at small
    exact absurd small (by decide)
  have kept := @pack_unpack Format.binary64 bits.toBitVec (by decide)
  rw [if_neg pattern] at kept
  exact UInt64.toBitVec_inj.mp kept

theorem isFinite_ofBits {bits : UInt64} (small : exponentField bits < 2047) :
    isFinite (Float.ofBits bits) = true := by
  rw [isFinite_iff, toBits_ofBits small]
  exact Nat.ne_of_lt small

/-! ## Whole numbers -/

theorem roundHalfEven_le (numerator denominator : Nat) :
    roundHalfEven numerator denominator ≤ numerator / denominator + 1 := by
  unfold roundHalfEven
  dsimp only
  split
  · omega
  · split <;> omega

theorem binaryExponent_one {numerator : Nat} (present : numerator ≠ 0) :
    binaryExponent numerator 1 = numerator.log2 := by
  have estimate : (numerator.log2 : Int) - (Nat.log2 1 : Nat) = numerator.log2 := by
    have one : Nat.log2 1 = 0 := by decide
    omega
  have reached : 1 * Nat.pow 2 (numerator.log2 : Int).toNat ≤
      numerator * Nat.pow 2 (-(numerator.log2 : Int)).toNat := by
    have least : 2 ^ numerator.log2 ≤ numerator := Nat.log2_self_le present
    simpa using least
  simp only [binaryExponent, estimate, if_pos reached]

/-- Scaled for a significand, a whole number has 53 bits at most. -/
theorem scaled_lt (numerator : Nat) :
    numerator * Nat.pow 2 (52 - numerator.log2) / (1 * Nat.pow 2 (numerator.log2 - 52)) < 2 ^ 53 := by
  have below : numerator < 2 ^ (numerator.log2 + 1) := Nat.lt_log2_self
  have positive : 0 < 1 * 2 ^ (numerator.log2 - 52) :=
    Nat.mul_pos Nat.one_pos (Nat.two_pow_pos _)
  change numerator * 2 ^ (52 - numerator.log2) / (1 * 2 ^ (numerator.log2 - 52)) < 2 ^ 53
  rw [Nat.div_lt_iff_lt_mul positive]
  have scaled := Nat.mul_lt_mul_of_pos_right below (Nat.two_pow_pos (52 - numerator.log2))
  rw [← Nat.pow_add] at scaled
  calc numerator * 2 ^ (52 - numerator.log2)
      < 2 ^ (numerator.log2 + 1 + (52 - numerator.log2)) := scaled
    _ = 2 ^ (53 + (numerator.log2 - 52)) := by congr 1; omega
    _ = 2 ^ 53 * (1 * 2 ^ (numerator.log2 - 52)) := by rw [Nat.pow_add, Nat.one_mul]

theorem nearestBits_lt {numerator : Nat} (small : numerator < 2 ^ 64) :
    nearestBits numerator 1 < 2047 * fractionCount := by
  unfold nearestBits
  split
  · decide
  · rename_i present
    have log : numerator.log2 < 64 := (Nat.log2_lt present).mpr small
    have exponent : max leastExponent ((numerator.log2 : Int) - 52) = numerator.log2 - 52 := by
      simp only [leastExponent]
      omega
    have up : (-((numerator.log2 : Int) - 52)).toNat = 52 - numerator.log2 := by omega
    have down : ((numerator.log2 : Int) - 52).toNat = numerator.log2 - 52 := by omega
    simp only [binaryExponent_one present, exponent, up, down]
    -- A significand that is rounded up to 2 ^ 53 adds one to the exponent field.
    have offset : ((numerator.log2 : Int) - 52 - leastExponent).toNat ≤ 1085 := by
      simp only [leastExponent]
      omega
    have significand : roundHalfEven (numerator * Nat.pow 2 (52 - numerator.log2))
        (1 * Nat.pow 2 (numerator.log2 - 52)) ≤ 2 ^ 53 :=
      Nat.le_trans (roundHalfEven_le _ _) (scaled_lt numerator)
    refine Nat.lt_of_le_of_lt (Nat.min_le_left _ _) ?_
    calc _ ≤ 1085 * fractionCount + 2 ^ 53 :=
          Nat.add_le_add (Nat.mul_le_mul_right _ offset) significand
      _ < 2047 * fractionCount := by decide

theorem isFinite_of_nearestBits {negative : Bool} {numerator denominator : Nat}
    (below : nearestBits numerator denominator < 2047 * fractionCount) :
    isFinite (nearest negative numerator denominator) = true := by
  have count : fractionCount = 2 ^ 52 := rfl
  have sign : Nat.pow 2 63 = 2 ^ 63 := rfl
  refine isFinite_ofBits ?_
  rw [count] at below
  simp only [exponentField, UInt64.toNat_ofNat', count, sign]
  cases negative with
  | false => simp only [Bool.false_eq_true, if_false]; omega
  | true => simp only [if_true]; omega

theorem isFinite_nearest {negative : Bool} {numerator : Nat} (small : numerator < 2 ^ 64) :
    isFinite (nearest negative numerator 1) = true :=
  isFinite_of_nearestBits (nearestBits_lt small)

theorem isFinite_ofNat {value : Nat} (small : value < 2 ^ 64) : isFinite (ofNat value) = true :=
  isFinite_nearest small

theorem isFinite_ofInt {value : Int} (small : value.natAbs < 2 ^ 64) :
    isFinite (ofInt value) = true :=
  isFinite_nearest small

end FigureScript.Binary64
