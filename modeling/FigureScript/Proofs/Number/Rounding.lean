import Mathlib
import FigureScript.Proofs.Number.Finite

namespace FigureScript.Binary64

/-! # Rounding to doubles

The numbers that round to a double reach half way to its neighbours on either side. Main statement:
no number rounds to two doubles, so that a number in the range of a double tells which one it is.
-/

/-- Any double but the value that is not a number. -/
def IsNumber (value : Float) : Prop := parts value ≠ .notANumber

instance (value : Float) : Decidable (IsNumber value) := inferInstanceAs (Decidable (_ ≠ _))

theorem isNumber_of_isFinite {value : Float} (finite : isFinite value = true) : IsNumber value := by
  intro special
  simp [isFinite, special] at finite

/-- A whole number that is too large for any finite double is rounded to infinity. -/
theorem isNumber_ofNat (value : Nat) : IsNumber (ofNat value) := by
  have bound : nearestBits value 1 ≤ 2047 * fractionCount := by
    unfold nearestBits
    split
    · exact Nat.zero_le _
    · exact Nat.min_le_right _ _
  rcases Nat.lt_or_eq_of_le bound with below | same
  · exact isNumber_of_isFinite (isFinite_of_nearestBits below)
  · rw [ofNat, nearest, same]
    decide +kernel

/-- A significand and an exponent that a finite double has: of all pairs with the same value, the one
with the greatest significand. -/
structure Canonical (significand : Nat) (exponent : Int) : Prop where
  below : significand < 2 ^ 53
  least : -1074 ≤ exponent
  normal : 2 ^ 52 ≤ significand ∨ exponent = -1074

variable {value other : Float} {negative : Bool} {significand second : Nat} {exponent power : Int}

/-- The fields of a double. -/
structure Fields (value : Float) (negative : Bool) (biased fraction : Nat) : Prop where
  bits : value.toBits.toNat = (if negative then 2 ^ 63 else 0) + biased * 2 ^ 52 + fraction
  biased_lt : biased < 2048
  fraction_lt : fraction < 2 ^ 52

/-- What the parts of a double are, by its fields. -/
theorem parts_cases (value : Float) : ∃ negative biased fraction,
    Fields value negative biased fraction ∧
      (biased = 2047 ∧ fraction = 0 ∧ parts value = .infinite negative ∨
        biased = 2047 ∧ fraction ≠ 0 ∧ parts value = .notANumber ∨
        biased = 0 ∧ parts value = .finite negative fraction (-1074) ∨
        biased ≠ 2047 ∧ biased ≠ 0 ∧
          parts value = .finite negative (2 ^ 52 + fraction) ((biased : Int) - 1075)) := by
  have count : fractionCount = 2 ^ 52 := rfl
  have sign : Nat.pow 2 63 = 2 ^ 63 := rfl
  have bounded := value.toBits.toNat_lt
  refine ⟨decide (2 ^ 63 ≤ value.toBits.toNat), value.toBits.toNat / 2 ^ 52 % 2048,
    value.toBits.toNat % 2 ^ 52, ⟨?_, by omega, by omega⟩, ?_⟩
  · simp only [decide_eq_true_eq]
    split <;> omega
  · unfold parts
    rw [count, sign]
    dsimp only
    split
    · rename_i full
      split
      · rename_i none
        exact .inl ⟨full, none, rfl⟩
      · rename_i some
        exact .inr (.inl ⟨full, some, rfl⟩)
    · rename_i full
      split
      · rename_i subnormal
        exact .inr (.inr (.inl ⟨subnormal, rfl⟩))
      · rename_i normal
        exact .inr (.inr (.inr ⟨full, normal, rfl⟩))

/-- A finite double has the least exponent, or a significand with its leading bit. -/
theorem finite_cases (finite : parts value = .finite negative significand exponent) :
    significand < 2 ^ 52 ∧ exponent = -1074 ∨
      2 ^ 52 ≤ significand ∧ significand < 2 ^ 53 ∧ -1074 ≤ exponent ∧ exponent ≤ 971 := by
  obtain ⟨sign, biased, fraction, ⟨_, field, small⟩, cases⟩ := parts_cases value
  rw [finite] at cases
  rcases cases with ⟨_, _, same⟩ | ⟨_, _, same⟩ | ⟨_, same⟩ | ⟨full, normal, same⟩
  · contradiction
  · contradiction
  · cases same
    exact .inl ⟨small, rfl⟩
  · cases same
    right
    omega

theorem canonical_of_parts (finite : parts value = .finite negative significand exponent) :
    Canonical significand exponent := by
  rcases finite_cases finite with ⟨small, least⟩ | ⟨normal, below, least, _⟩
  · exact ⟨by omega, by omega, .inr least⟩
  · exact ⟨below, least, .inl normal⟩

theorem exponent_le_of_parts (finite : parts value = .finite negative significand exponent) :
    exponent ≤ 971 := by
  rcases finite_cases finite with ⟨_, least⟩ | ⟨_, _, _, most⟩
  · omega
  · exact most

/-- The bits of a double, put together again from its parts. -/
def bitsOf : Parts → Nat
  | .notANumber => 0
  | .infinite negative => (if negative then 2 ^ 63 else 0) + 2047 * 2 ^ 52
  | .finite negative significand exponent =>
    (if negative then 2 ^ 63 else 0) +
      if significand < 2 ^ 52 then significand
      else (exponent + 1074).toNat * 2 ^ 52 + significand

theorem bitsOf_parts (number : IsNumber value) : bitsOf (parts value) = value.toBits.toNat := by
  obtain ⟨negative, biased, fraction, fields, cases⟩ := parts_cases value
  have small := fields.fraction_lt
  rw [fields.bits]
  rcases cases with ⟨full, none, same⟩ | ⟨_, _, same⟩ | ⟨subnormal, same⟩ | ⟨_, normal, same⟩
  · rw [same, bitsOf, full, none, Nat.add_zero]
  · exact absurd same number
  · rw [same, bitsOf, if_pos small, subnormal, Nat.zero_mul, Nat.add_zero]
  · have large : ¬ 2 ^ 52 + fraction < 2 ^ 52 := by omega
    have place : ((biased : Int) - 1075 + 1074).toNat = biased - 1 := by omega
    rw [same, bitsOf, if_neg large, place]
    omega

/-- A double is known from its parts, unless it is not a number. -/
theorem parts_inj (number : IsNumber value) (same : parts value = parts other) : value = other := by
  have second : IsNumber other := fun absent => number (same.trans absent)
  refine Float.toBits_inj.mp (UInt64.toNat.inj ?_)
  rw [← bitsOf_parts number, same, bitsOf_parts second]

/-! ## Ranges -/

/-- How far below a double its range reaches, in units of its last place. Below a power of two the
next double is only half as far away. -/
def reachBelow (significand : Nat) (exponent : Int) : ℚ :=
  if significand = 2 ^ 52 ∧ -1074 < exponent then 1 / 4 else 1 / 2

/-- The number rounds to `significand * 2 ^ exponent`. A number half way between two doubles rounds to
the one with the even significand. -/
structure Rounds (significand : Nat) (exponent : Int) (number : ℚ) : Prop where
  lower : (significand - reachBelow significand exponent) * 2 ^ exponent ≤ number
  upper : number ≤ (significand + 1 / 2) * 2 ^ exponent
  inside : significand % 2 = 1 →
    (significand - reachBelow significand exponent) * 2 ^ exponent < number ∧
      number < (significand + 1 / 2) * 2 ^ exponent

theorem reachBelow_le_half (significand : Nat) (exponent : Int) :
    reachBelow significand exponent ≤ 1 / 2 := by
  unfold reachBelow
  split <;> norm_num

theorem reachBelow_pos (significand : Nat) (exponent : Int) : 0 < reachBelow significand exponent := by
  unfold reachBelow
  split <;> norm_num

/-- A unit of a coarser binade is at least two units of a finer one. -/
theorem two_mul_zpow_le {fine coarse : Int} (less : fine < coarse) :
    (2 : ℚ) * 2 ^ fine ≤ 2 ^ coarse := by
  rw [mul_comm, ← zpow_add_one₀ (by norm_num)]
  exact zpow_le_zpow_right₀ (by norm_num) less

/-- Above the least binade the next double below is no further down than half a unit below the start
of the binade. -/
theorem le_sub_reachBelow (normal : 2 ^ 52 ≤ significand) (above : -1074 < exponent) :
    (2 ^ 52 - 1 / 2 : ℚ) ≤ significand - 2 * reachBelow significand exponent := by
  rcases normal.eq_or_lt with edge | beyond
  · have quarter : reachBelow significand exponent = 1 / 4 := if_pos ⟨edge.symm, above⟩
    rw [quarter, ← edge]
    norm_num
  · have half := reachBelow_le_half significand exponent
    have whole : ((2 ^ 52 + 1 : Nat) : ℚ) ≤ significand := by exact_mod_cast beyond
    push_cast at whole
    linarith

/-- Every double rounds to itself. -/
theorem rounds_self (significand : Nat) (exponent : Int) :
    Rounds significand exponent (significand * 2 ^ exponent) := by
  have unit : (0 : ℚ) < 2 ^ exponent := zpow_pos (by norm_num) exponent
  have below := reachBelow_pos significand exponent
  have lower : (significand - reachBelow significand exponent) * 2 ^ exponent <
      (significand : ℚ) * 2 ^ exponent := mul_lt_mul_of_pos_right (by linarith) unit
  have upper : (significand : ℚ) * 2 ^ exponent < (significand + 1 / 2) * 2 ^ exponent :=
    mul_lt_mul_of_pos_right (by linarith) unit
  exact ⟨lower.le, upper.le, fun _ => ⟨lower, upper⟩⟩

namespace Rounds

variable {number : ℚ}

/-- Within one binade neighbours are one unit apart, and one of them is odd. -/
theorem not_lt_of_exponent_eq (first : Canonical significand exponent)
    (rounds : Rounds significand exponent number) (others : Rounds second exponent number) :
    ¬ significand < second := by
  intro less
  have unit : (0 : ℚ) < 2 ^ exponent := zpow_pos (by norm_num) exponent
  have half : reachBelow second exponent = 1 / 2 := by
    refine if_neg fun both => ?_
    rcases first.normal with normal | least
    · omega
    · omega
  have lower := others.lower
  have upper := rounds.upper
  rw [half] at lower
  have next : second = significand + 1 := by
    have bound : ((second : ℚ) - 1 / 2) ≤ significand + 1 / 2 :=
      le_of_mul_le_mul_right (lower.trans upper) unit
    have whole : (second : ℚ) ≤ (significand + 1 : Nat) := by push_cast; linarith
    exact le_antisymm (by exact_mod_cast whole) less
  have meet : ((second : ℚ) - 1 / 2) * 2 ^ exponent = (significand + 1 / 2) * 2 ^ exponent := by
    rw [next]
    push_cast
    ring
  rcases Nat.mod_two_eq_zero_or_one significand with even | odd
  · have strict := (others.inside (by omega)).1
    rw [half] at strict
    linarith
  · have strict := (rounds.inside odd).2
    linarith

/-- Where one binade ends and the next begins, the last significand is odd. -/
theorem not_lt_exponent (first : Canonical significand exponent) (next : Canonical second power)
    (rounds : Rounds significand exponent number) (others : Rounds second power number) :
    ¬ exponent < power := by
  intro less
  have unit : (0 : ℚ) < 2 ^ exponent := zpow_pos (by norm_num) exponent
  have least := first.least
  have normal : 2 ^ 52 ≤ second := next.normal.resolve_right (by omega)
  have start : (2 ^ 52 - 1 / 4 : ℚ) ≤ second - reachBelow second power := by
    have above : -1074 < power := by omega
    have below := le_sub_reachBelow normal above
    have large : (2 ^ 52 : ℚ) ≤ second := by exact_mod_cast normal
    linarith
  have lower : (2 ^ 53 - 1 / 2 : ℚ) * 2 ^ exponent ≤ number := by
    calc (2 ^ 53 - 1 / 2 : ℚ) * 2 ^ exponent = (2 ^ 52 - 1 / 4) * (2 * 2 ^ exponent) := by ring
      _ ≤ (second - reachBelow second power) * 2 ^ power :=
          mul_le_mul start (two_mul_zpow_le less) (by positivity) (by linarith)
      _ ≤ number := others.lower
  have upper := rounds.upper
  have last : significand = 2 ^ 53 - 1 := by
    have bound : (2 ^ 53 - 1 / 2 : ℚ) ≤ significand + 1 / 2 :=
      le_of_mul_le_mul_right (lower.trans upper) unit
    have whole : ((2 ^ 53 : Nat) : ℚ) ≤ (significand + 1 : Nat) := by push_cast; linarith
    have reached : 2 ^ 53 ≤ significand + 1 := by exact_mod_cast whole
    have := first.below
    omega
  have strict := (rounds.inside (by omega)).2
  have same : ((significand : ℚ) + 1 / 2) = 2 ^ 53 - 1 / 2 := by
    rw [last]
    norm_num
  rw [same] at strict
  linarith

/-- No number rounds to two doubles. -/
theorem unique (first : Canonical significand exponent) (next : Canonical second power)
    (rounds : Rounds significand exponent number) (others : Rounds second power number) :
    significand = second ∧ exponent = power := by
  have same : exponent = power := le_antisymm
    (not_lt.mp (not_lt_exponent next first others rounds))
    (not_lt.mp (not_lt_exponent first next rounds others))
  subst same
  refine ⟨le_antisymm ?_ ?_, rfl⟩
  · exact not_lt.mp (not_lt_of_exponent_eq next others rounds)
  · exact not_lt.mp (not_lt_of_exponent_eq first rounds others)

/-- A double of a finer binade is as far below as the next double is, or further. -/
theorem le_of_finer (first : Canonical significand exponent) (next : Canonical second power)
    (finer : power < exponent) :
    (second : ℚ) * 2 ^ power ≤ (significand - 2 * reachBelow significand exponent) * 2 ^ exponent := by
  have least := next.least
  have above : -1074 < exponent := by omega
  have normal : 2 ^ 52 ≤ significand := first.normal.resolve_right above.ne'
  have start := le_sub_reachBelow normal above
  have most : (second : ℚ) ≤ 2 ^ 53 - 1 := by
    have bound : ((second + 1 : Nat) : ℚ) ≤ (2 ^ 53 : Nat) := by exact_mod_cast next.below
    push_cast at bound
    linarith
  calc (second : ℚ) * 2 ^ power ≤ (2 ^ 53 - 1) * 2 ^ power := by gcongr
    _ = (2 ^ 52 - 1 / 2) * (2 * 2 ^ power) := by ring
    _ ≤ (2 ^ 52 - 1 / 2) * 2 ^ exponent :=
        mul_le_mul_of_nonneg_left (two_mul_zpow_le finer) (by norm_num)
    _ ≤ (significand - 2 * reachBelow significand exponent) * 2 ^ exponent := by gcongr

/-- A double of a coarser binade is a unit above, or further. -/
theorem le_of_coarser (first : Canonical significand exponent) (next : Canonical second power)
    (coarser : exponent < power) : ((significand : ℚ) + 1) * 2 ^ exponent ≤ second * 2 ^ power := by
  have least := first.least
  have normal : (2 ^ 52 : ℚ) ≤ second := by
    exact_mod_cast next.normal.resolve_right (by omega)
  have most : (significand + 1 : ℚ) ≤ 2 ^ 53 := by exact_mod_cast first.below
  calc ((significand : ℚ) + 1) * 2 ^ exponent ≤ 2 ^ 53 * 2 ^ exponent := by gcongr
    _ = 2 ^ 52 * (2 * 2 ^ exponent) := by ring
    _ ≤ 2 ^ 52 * 2 ^ power := mul_le_mul_of_nonneg_left (two_mul_zpow_le coarser) (by norm_num)
    _ ≤ second * 2 ^ power := by gcongr

/-- Any other double is a unit above, or below as far as the next double is. -/
theorem apart (first : Canonical significand exponent) (next : Canonical second power)
    (other : second = significand → power ≠ exponent) :
    ((significand : ℚ) + 1) * 2 ^ exponent ≤ second * 2 ^ power ∨
      (second : ℚ) * 2 ^ power ≤
        (significand - 2 * reachBelow significand exponent) * 2 ^ exponent := by
  rcases lt_trichotomy power exponent with finer | rfl | coarser
  · exact .inr (le_of_finer first next finer)
  · have unit : (0 : ℚ) < 2 ^ power := zpow_pos (by norm_num) power
    rcases Nat.lt_or_gt_of_ne fun equal => other equal rfl with below | above
    · right
      have half := reachBelow_le_half significand power
      have whole : ((second + 1 : Nat) : ℚ) ≤ significand := by exact_mod_cast below
      push_cast at whole
      exact mul_le_mul_of_nonneg_right (by linarith) unit.le
    · left
      have whole : ((significand + 1 : Nat) : ℚ) ≤ second := by exact_mod_cast above
      push_cast at whole
      exact mul_le_mul_of_nonneg_right whole unit.le
  · exact .inl (le_of_coarser first next coarser)

/-- No double is nearer to a number than the one it rounds to, and one with an odd significand is
nearer than all others. -/
theorem closest (first : Canonical significand exponent)
    (rounds : Rounds significand exponent number)
    (next : Canonical second power) (other : second = significand → power ≠ exponent) :
    |number - significand * 2 ^ exponent| ≤ |number - second * 2 ^ power| ∧
      (significand % 2 = 1 →
        |number - significand * 2 ^ exponent| < |number - second * 2 ^ power|) := by
  have reach := mul_pos (reachBelow_pos significand exponent)
    (zpow_pos (by norm_num : (0 : ℚ) < 2) exponent)
  have unit : (0 : ℚ) < 2 ^ exponent := zpow_pos (by norm_num) exponent
  obtain ⟨lower, upper, inside⟩ := rounds
  rw [sub_mul] at lower inside
  rw [add_mul] at upper inside
  rcases apart first next other with above | below
  · rw [add_mul, one_mul] at above
    have far := neg_le_abs (number - second * 2 ^ power)
    refine ⟨le_trans (abs_le.mpr ⟨?_, ?_⟩) far, fun odd => lt_of_lt_of_le (abs_lt.mpr ⟨?_, ?_⟩) far⟩
    · linarith
    · linarith
    · linarith
    · have strict := (inside odd).2
      linarith
  · rw [sub_mul, mul_assoc] at below
    have far := le_abs_self (number - second * 2 ^ power)
    refine ⟨le_trans (abs_le.mpr ⟨?_, ?_⟩) far, fun odd => lt_of_lt_of_le (abs_lt.mpr ⟨?_, ?_⟩) far⟩
    · linarith
    · linarith
    · have strict := (inside odd).1
      linarith
    · linarith

end Rounds

end FigureScript.Binary64
