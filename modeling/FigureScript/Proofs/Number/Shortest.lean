import FigureScript.Number.Shortest
import FigureScript.Proofs.Number.Rounding

namespace FigureScript.Number

open Binary64 (Canonical Rounds reachBelow)

/-! # Shortest decimals round back

The search for a decimal looks at finer and finer grids and stops at a point in the range of the
double. Main statement: the decimal it finds rounds to the double. The finest grid holds every double,
so that the search does find one.
-/

def Decimal.value (decimal : Decimal) : ℚ := decimal.digits * 10 ^ decimal.exponent

/-- A power as a fraction of whole numbers. -/
theorem zpow_eq_div {base : ℚ} (present : base ≠ 0) (exponent : Int) :
    base ^ exponent = base ^ exponent.toNat / base ^ (-exponent).toNat := by
  rw [eq_div_iff (pow_ne_zero _ present), ← zpow_natCast, ← zpow_natCast, ← zpow_add₀ present]
  congr 1
  omega

namespace Interval

variable {interval : Interval} {tie : Tie} {exponent : Int} {digits : Nat}

/-- The number lies between the ends of the interval, or is one of them where they belong to it. -/
structure Holds (interval : Interval) (number : ℚ) : Prop where
  lower : interval.lower / interval.denominator ≤ number
  upper : number ≤ interval.upper / interval.denominator
  inside : interval.closed = false →
    interval.lower / interval.denominator < number ∧
      number < interval.upper / interval.denominator

/-- Membership of a point on a grid is decided on whole numbers. -/
theorem holds_of_admits (positive : 0 < interval.denominator)
    (admitted : interval.admits (interval.lower * 10 ^ (-exponent).toNat)
      (digits * (interval.denominator * 10 ^ exponent.toNat))
      (interval.upper * 10 ^ (-exponent).toNat) = true) :
    interval.Holds (digits * 10 ^ exponent) := by
  have denominator : (0 : ℚ) < interval.denominator := Nat.cast_pos.mpr positive
  have scale : (0 : ℚ) < 10 ^ (-exponent).toNat := by positivity
  rw [zpow_eq_div (by norm_num), ← mul_div_assoc]
  have order : interval.lower * 10 ^ (-exponent).toNat ≤
        digits * (interval.denominator * 10 ^ exponent.toNat) ∧
      digits * (interval.denominator * 10 ^ exponent.toNat) ≤
        interval.upper * 10 ^ (-exponent).toNat := by
    unfold admits at admitted
    split at admitted
    · exact of_decide_eq_true admitted
    · exact ⟨(of_decide_eq_true admitted).1.le, (of_decide_eq_true admitted).2.le⟩
  constructor
  · rw [div_le_div_iff₀ denominator scale, mul_assoc, mul_comm (10 ^ exponent.toNat : ℚ)]
    exact_mod_cast order.1
  · rw [div_le_div_iff₀ scale denominator, mul_assoc, mul_comm (10 ^ exponent.toNat : ℚ)]
    exact_mod_cast order.2
  · intro opened
    simp only [admits, opened, Bool.false_eq_true, if_false, decide_eq_true_eq] at admitted
    rw [div_lt_div_iff₀ denominator scale, div_lt_div_iff₀ scale denominator, mul_assoc,
      mul_comm (10 ^ exponent.toNat : ℚ)]
    exact_mod_cast admitted

theorem holds_of_onGrid (positive : 0 < interval.denominator)
    (found : interval.onGrid tie exponent = some digits) :
    interval.Holds (digits * 10 ^ exponent) := by
  refine holds_of_admits positive ?_
  unfold onGrid at found
  dsimp only at found
  split at found
  · rename_i both
    rw [Bool.and_eq_true] at both
    -- Whichever of the two is nearer, both lie in the interval.
    rcases ite_eq_iff.mp (Option.some.inj found) with ⟨_, rfl⟩ | ⟨_, rfl⟩
    · exact both.2
    · exact both.1
  · split at found
    · rename_i below
      cases found
      exact below
    · split at found
      · rename_i above
        cases found
        exact above
      · contradiction

/-- A center on the grid is found there. -/
theorem onGrid_of_dvd (ordered : interval.lower < interval.center ∧ interval.center < interval.upper)
    (whole : interval.denominator * 10 ^ exponent.toNat ∣ interval.center * 10 ^ (-exponent).toNat) :
    ∃ digits, interval.onGrid tie exponent = some digits := by
  have scale : 0 < 10 ^ (-exponent).toNat := Nat.pow_pos (by decide)
  have lower := Nat.mul_lt_mul_of_pos_right ordered.1 scale
  have upper := Nat.mul_lt_mul_of_pos_right ordered.2 scale
  have fits : interval.admits (interval.lower * 10 ^ (-exponent).toNat)
      (interval.center * 10 ^ (-exponent).toNat / (interval.denominator * 10 ^ exponent.toNat) *
        (interval.denominator * 10 ^ exponent.toNat))
      (interval.upper * 10 ^ (-exponent).toNat) = true := by
    rw [Nat.div_mul_cancel whole, admits]
    split
    · exact decide_eq_true ⟨lower.le, upper.le⟩
    · exact decide_eq_true ⟨lower, upper⟩
  have power : ∀ count, Nat.pow 10 count = 10 ^ count := fun _ => rfl
  unfold onGrid
  simp only [power, fits, Bool.true_and, if_true]
  split
  · exact ⟨_, rfl⟩
  · exact ⟨_, rfl⟩

/-- Whatever grid the search stops at, what it returns lies in the interval. -/
theorem holds_search (positive : 0 < interval.denominator)
    (finest : ∃ digits, interval.onGrid tie (-1074) = some digits) (steps : Nat) :
    interval.Holds (interval.search tie steps).value := by
  induction steps with
  | zero =>
      obtain ⟨digits, found⟩ := finest
      simp only [search, found, Option.getD_some]
      exact holds_of_onGrid positive found
  | succ steps ih =>
      simp only [search]
      split
      · rename_i digits found
        exact holds_of_onGrid positive found
      · exact ih

end Interval

/-! ## The interval of a double -/

variable {significand : Nat} {exponent : Int}

theorem denominator_around_pos : 0 < (Interval.around significand exponent).denominator :=
  Nat.mul_pos (by decide) (Nat.pow_pos (by decide))

theorem closed_around :
    (Interval.around significand exponent).closed = (significand % 2 == 0) := rfl

theorem scaled_eq {units : ℚ} {bound : Nat}
    (scaled : (bound : ℚ) = units * 4 * 2 ^ exponent.toNat) :
    bound / (Interval.around significand exponent).denominator = units * (2 : ℚ) ^ exponent := by
  have denominator : ((Interval.around significand exponent).denominator : ℚ) =
      4 * 2 ^ (-exponent).toNat := by
    change ((4 * 2 ^ (-exponent).toNat : Nat) : ℚ) = _
    push_cast
    rfl
  rw [scaled, denominator, zpow_eq_div (by norm_num)]
  field_simp

/-- The lower end of the range, with the significand in quarters of a unit. -/
theorem lower_around (present : significand ≠ 0) :
    ((Interval.around significand exponent).lower : ℚ) /
        (Interval.around significand exponent).denominator =
      (significand - reachBelow significand exponent) * 2 ^ exponent := by
  refine scaled_eq ?_
  change (((4 * significand - if significand = 2 ^ 52 ∧ -1074 < exponent then 1 else 2) *
    2 ^ exponent.toNat : Nat) : ℚ) = _
  unfold reachBelow
  split
  · have enough : 1 ≤ 4 * significand := by omega
    push_cast [enough]
    ring
  · have enough : 2 ≤ 4 * significand := by omega
    push_cast [enough]
    ring

theorem upper_around :
    ((Interval.around significand exponent).upper : ℚ) /
        (Interval.around significand exponent).denominator =
      (significand + 1 / 2) * 2 ^ exponent := by
  refine scaled_eq ?_
  change (((4 * significand + 2) * 2 ^ exponent.toNat : Nat) : ℚ) = _
  push_cast
  ring

theorem ordered_around (present : significand ≠ 0) :
    (Interval.around significand exponent).lower < (Interval.around significand exponent).center ∧
      (Interval.around significand exponent).center <
        (Interval.around significand exponent).upper := by
  have scale : 0 < Nat.pow 2 exponent.toNat := Nat.pow_pos (by decide)
  constructor
  · refine Nat.mul_lt_mul_of_pos_right ?_ scale
    split <;> omega
  · exact Nat.mul_lt_mul_of_pos_right (by omega) scale

/-- A double is a multiple of a power of ten that is as small as its unit in the last place. -/
theorem finest_around {places : Nat} (least : -(places : Int) ≤ exponent) :
    (Interval.around significand exponent).denominator * 10 ^ (-(places : Int)).toNat ∣
      (Interval.around significand exponent).center * 10 ^ (-(-(places : Int))).toNat := by
  have none : (-(places : Int)).toNat = 0 := by omega
  have all : (-(-(places : Int))).toNat = places := by omega
  have small : (-exponent).toNat ≤ places := by omega
  have digits : 2 ^ (-exponent).toNat ∣ 10 ^ places :=
    (Nat.pow_dvd_pow 2 small).trans (pow_dvd_pow_of_dvd (by decide : 2 ∣ 10) places)
  rw [none, all, pow_zero, mul_one]
  change 4 * 2 ^ (-exponent).toNat ∣ 4 * significand * 2 ^ exponent.toNat * 10 ^ places
  rw [mul_assoc 4, mul_assoc 4]
  exact Nat.mul_dvd_mul_left 4 (digits.trans (Nat.dvd_mul_left _ _))

theorem onGrid_finest (places : Nat) (tie : Tie) (present : significand ≠ 0)
    (least : -(places : Int) ≤ exponent) :
    ∃ digits, (Interval.around significand exponent).onGrid tie (-(places : Int)) = some digits :=
  Interval.onGrid_of_dvd (ordered_around present) (finest_around least)

/-- The shortest decimal of a double rounds to it. -/
theorem rounds_shortest (tie : Tie) (present : significand ≠ 0) (least : -1074 ≤ exponent) :
    Rounds significand exponent (shortest tie significand exponent).value := by
  have holds : (Interval.around significand exponent).Holds
      (shortest tie significand exponent).value := by
    unfold shortest
    rw [if_neg present]
    exact Interval.holds_search denominator_around_pos
      (onGrid_finest 1074 tie present least) _
  obtain ⟨lower, upper, inside⟩ := holds
  rw [lower_around present] at lower inside
  rw [upper_around] at upper inside
  refine ⟨lower, upper, fun odd => inside ?_⟩
  rw [closed_around, odd]
  rfl

end FigureScript.Number
