import FigureScript.Proofs.Number.Shortest

namespace FigureScript.Binary64

open Number (zpow_eq_div)

/-! # The nearest double

`nearest` finds the binade of a fraction and rounds its significand there. Main statement: it gives
the double that the fraction rounds to. Whole numbers up to 53 bits are doubles themselves, so that
nothing is rounded there.
-/

variable {numerator denominator significand : Nat} {exponent : Int} {negative : Bool}

/-- A quotient is a whole number and a part below one, and twice the remainder tells on which side of
a half the part is. -/
theorem exists_part (numerator : Nat) (positive : 0 < denominator) : ∃ part : ℚ,
    (numerator / denominator : ℚ) = (numerator / denominator : Nat) + part ∧
      0 ≤ part ∧ part < 1 ∧
      (2 * (numerator % denominator) < denominator → part < 1 / 2) ∧
      (denominator < 2 * (numerator % denominator) → 1 / 2 < part) ∧
      (2 * (numerator % denominator) = denominator → part = 1 / 2) := by
  have unit : (0 : ℚ) < denominator := Nat.cast_pos.mpr positive
  have whole : (denominator : ℚ) * (numerator / denominator : Nat) +
      (numerator % denominator : Nat) = numerator := by
    exact_mod_cast Nat.div_add_mod numerator denominator
  refine ⟨(numerator % denominator : Nat) / denominator, ?_, by positivity, ?_,
    fun below => ?_, fun above => ?_, fun middle => ?_⟩
  · rw [div_eq_iff unit.ne', add_mul, div_mul_cancel₀ _ unit.ne', mul_comm _ (denominator : ℚ), whole]
  · rw [div_lt_one unit]
    exact_mod_cast Nat.mod_lt numerator positive
  · rw [div_lt_div_iff₀ unit two_pos, one_mul, mul_comm]
    exact_mod_cast below
  · rw [div_lt_div_iff₀ two_pos unit, one_mul, mul_comm]
    exact_mod_cast above
  · rw [div_eq_div_iff unit.ne' two_ne_zero, one_mul, mul_comm]
    exact_mod_cast middle

/-- The rounded quotient is at most a half away, and even where it is a half away. -/
theorem roundHalfEven_bounds (numerator : Nat) (positive : 0 < denominator) :
    (roundHalfEven numerator denominator - 1 / 2 : ℚ) ≤ numerator / denominator ∧
      (numerator / denominator : ℚ) ≤ roundHalfEven numerator denominator + 1 / 2 ∧
      (roundHalfEven numerator denominator % 2 = 1 →
        (roundHalfEven numerator denominator - 1 / 2 : ℚ) < numerator / denominator ∧
          (numerator / denominator : ℚ) < roundHalfEven numerator denominator + 1 / 2) := by
  obtain ⟨part, division, least, most, low, high, tie⟩ := exists_part numerator positive
  rw [division]
  unfold roundHalfEven
  dsimp only
  split
  · rename_i below
    have half := low below
    exact ⟨by linarith, by linarith, fun _ => ⟨by linarith, by linarith⟩⟩
  · split
    · rename_i above
      have half := high above
      push_cast
      exact ⟨by linarith, by linarith, fun _ => ⟨by linarith, by linarith⟩⟩
    · rename_i notBelow notAbove
      have half := tie (by omega)
      -- Of the two whole numbers that are equally near the even one is taken.
      rcases Nat.mod_two_eq_zero_or_one (numerator / denominator) with even | odd
      · rw [even, Nat.add_zero]
        exact ⟨by linarith, by linarith, fun odd => by omega⟩
      · rw [odd]
        push_cast
        exact ⟨by linarith, by linarith, fun even => by omega⟩

theorem log2_bounds {number : Nat} (present : number ≠ 0) :
    (2 : ℚ) ^ (number.log2 : Int) ≤ number ∧ (number : ℚ) < 2 ^ ((number.log2 : Int) + 1) := by
  constructor
  · rw [zpow_natCast]
    exact_mod_cast Nat.log2_self_le present
  · have next : (number.log2 : Int) + 1 = (number.log2 + 1 : Nat) := by push_cast; rfl
    rw [next, zpow_natCast]
    exact_mod_cast Nat.lt_log2_self

/-- A fraction lies in the binade of its exponent. -/
theorem binaryExponent_bounds (present : numerator ≠ 0) (positive : 0 < denominator) :
    (2 : ℚ) ^ binaryExponent numerator denominator ≤ numerator / denominator ∧
      (numerator / denominator : ℚ) < 2 ^ (binaryExponent numerator denominator + 1) := by
  have unit : (0 : ℚ) < denominator := Nat.cast_pos.mpr positive
  obtain ⟨front, frontBelow⟩ := log2_bounds present
  obtain ⟨back, backBelow⟩ := log2_bounds positive.ne'
  obtain ⟨estimate, estimated⟩ : ∃ estimate : Int,
      estimate = Nat.log2 numerator - Nat.log2 denominator := ⟨_, rfl⟩
  -- Each of the two numbers is known up to a factor of two.
  have lower : (2 : ℚ) ^ (estimate - 1) ≤ numerator / denominator := by
    have place : estimate - 1 = numerator.log2 - ((denominator.log2 : Int) + 1) := by omega
    rw [place, zpow_sub₀ (by norm_num)]
    exact div_le_div₀ (by positivity) front unit backBelow.le
  have upper : (numerator / denominator : ℚ) < 2 ^ (estimate + 1) := by
    have place : estimate + 1 = (numerator.log2 : Int) + 1 - denominator.log2 := by omega
    rw [place, zpow_sub₀ (by norm_num)]
    exact div_lt_div₀ frontBelow back (by positivity) (by positivity)
  have reached : denominator * Nat.pow 2 estimate.toNat ≤
      numerator * Nat.pow 2 (-estimate).toNat ↔ (2 : ℚ) ^ estimate ≤ numerator / denominator := by
    have scale : (0 : ℚ) < 2 ^ (-estimate).toNat := by positivity
    rw [zpow_eq_div (by norm_num), div_le_div_iff₀ scale unit, mul_comm denominator]
    exact_mod_cast Iff.rfl
  have found : binaryExponent numerator denominator =
      if denominator * Nat.pow 2 estimate.toNat ≤ numerator * Nat.pow 2 (-estimate).toNat then
        estimate
      else estimate - 1 := by
    rw [estimated]
    rfl
  rw [found]
  split
  · rename_i enough
    exact ⟨reached.mp enough, upper⟩
  · rename_i less
    rw [sub_add_cancel]
    exact ⟨lower, not_le.mp fun enough => less (reached.mpr enough)⟩

/-- A number within half a unit of a significand that is not too large rounds to it. -/
theorem rounds_of_scaled {number : ℚ} (least : -1074 ≤ exponent) (small : significand < 2 ^ 53)
    (normal : 2 ^ 52 ≤ number ∨ exponent = -1074) (lower : (significand - 1 / 2 : ℚ) ≤ number)
    (upper : number ≤ significand + 1 / 2)
    (inside : significand % 2 = 1 →
      (significand - 1 / 2 : ℚ) < number ∧ number < significand + 1 / 2) :
    Canonical significand exponent ∧ Rounds significand exponent (number * 2 ^ exponent) := by
  have unit : (0 : ℚ) < 2 ^ exponent := zpow_pos (by norm_num) exponent
  have large : 2 ^ 52 ≤ significand ∨ exponent = -1074 := by
    refine normal.imp_left fun reached => ?_
    have bound : ((2 ^ 52 : Nat) : ℚ) < (significand + 1 : Nat) := by push_cast; linarith
    exact Nat.lt_succ_iff.mp (by exact_mod_cast bound)
  have reach : (significand - reachBelow significand exponent : ℚ) ≤ number := by
    unfold reachBelow
    split
    · rename_i edge
      have reached := normal.resolve_right (by omega)
      rw [edge.1]
      push_cast
      linarith
    · exact lower
  refine ⟨⟨small, least, large⟩, ⟨?_, ?_, fun odd => ?_⟩⟩
  · exact mul_le_mul_of_nonneg_right reach unit.le
  · exact mul_le_mul_of_nonneg_right upper unit.le
  · have half : reachBelow significand exponent = 1 / 2 := if_neg fun edge => by omega
    rw [half]
    obtain ⟨strictly, strictlyAbove⟩ := inside odd
    exact ⟨mul_lt_mul_of_pos_right strictly unit, mul_lt_mul_of_pos_right strictlyAbove unit⟩

/-- A number within the last half unit of a binade rounds to the first double of the next one. -/
theorem rounds_of_carry {number : ℚ} (least : -1074 ≤ exponent) (below : number < 2 ^ 53)
    (lower : (2 ^ 53 - 1 / 2 : ℚ) ≤ number) :
    Canonical (2 ^ 52) (exponent + 1) ∧ Rounds (2 ^ 52) (exponent + 1) (number * 2 ^ exponent) := by
  have unit : (0 : ℚ) < 2 ^ exponent := zpow_pos (by norm_num) exponent
  have twice : (2 : ℚ) ^ (exponent + 1) = 2 * 2 ^ exponent := by
    rw [zpow_add_one₀ (by norm_num), mul_comm]
  have quarter : reachBelow (2 ^ 52) (exponent + 1) = 1 / 4 := if_pos ⟨rfl, by omega⟩
  refine ⟨⟨by norm_num, by omega, .inl le_rfl⟩, ⟨?_, ?_, fun odd => by omega⟩⟩
  · rw [quarter, twice, ← mul_assoc]
    push_cast
    exact mul_le_mul_of_nonneg_right (by linarith) unit.le
  · rw [twice, ← mul_assoc]
    push_cast
    exact mul_le_mul_of_nonneg_right (by linarith) unit.le

/-- A significand that is rounded up to the next power of two is the first one of the next binade,
written with the same bits. -/
theorem exists_rounds_of_scaled {number : ℚ} (least : -1074 ≤ exponent) (below : number < 2 ^ 53)
    (normal : 2 ^ 52 ≤ number ∨ exponent = -1074) (lower : (significand - 1 / 2 : ℚ) ≤ number)
    (upper : number ≤ significand + 1 / 2)
    (inside : significand % 2 = 1 →
      (significand - 1 / 2 : ℚ) < number ∧ number < significand + 1 / 2) :
    ∃ next power, Canonical next power ∧ Rounds next power (number * 2 ^ exponent) ∧
      (power + 1074).toNat * 2 ^ 52 + next = (exponent + 1074).toNat * 2 ^ 52 + significand := by
  have most : significand ≤ 2 ^ 53 := by
    have bound : (significand : ℚ) < (2 ^ 53 + 1 : Nat) := by push_cast; linarith
    exact Nat.lt_succ_iff.mp (by exact_mod_cast bound)
  rcases most.lt_or_eq with small | full
  · obtain ⟨canonical, rounds⟩ := rounds_of_scaled least small normal lower upper inside
    exact ⟨significand, exponent, canonical, rounds, rfl⟩
  · rw [full] at lower
    obtain ⟨canonical, rounds⟩ := rounds_of_carry least below (by exact_mod_cast lower)
    exact ⟨2 ^ 52, exponent + 1, canonical, rounds, by omega⟩

/-- Every fraction rounds to a significand with an exponent, and its bits are made of these as far
as there are finite doubles. -/
theorem exists_rounds (present : numerator ≠ 0) (positive : 0 < denominator) :
    ∃ significand exponent, Canonical significand exponent ∧
      Rounds significand exponent (numerator / denominator) ∧
      nearestBits numerator denominator =
        min ((exponent + 1074).toNat * 2 ^ 52 + significand) (2047 * 2 ^ 52) := by
  obtain ⟨binade, next⟩ := binaryExponent_bounds present positive
  obtain ⟨exponent, place⟩ : ∃ exponent,
      exponent = max (-1074) (binaryExponent numerator denominator - 52) := ⟨_, rfl⟩
  have unit : (0 : ℚ) < 2 ^ exponent := zpow_pos (by norm_num) exponent
  -- The fraction in units of the last place.
  obtain ⟨number, scaled⟩ : ∃ number : ℚ, numerator / denominator = number * 2 ^ exponent :=
    ⟨numerator / denominator / 2 ^ exponent, (div_mul_cancel₀ _ unit.ne').symm⟩
  have fraction : ((numerator * 2 ^ (-exponent).toNat : Nat) : ℚ) /
      ((denominator * 2 ^ exponent.toNat : Nat) : ℚ) = number := by
    rw [eq_div_of_mul_eq unit.ne' scaled.symm, zpow_eq_div (by norm_num) exponent]
    push_cast
    field_simp
  rw [scaled] at binade next ⊢
  have below : number < 2 ^ 53 := by
    refine lt_of_mul_lt_mul_right (next.trans_le ?_) unit.le
    rw [← zpow_natCast, ← zpow_add₀ (by norm_num)]
    exact zpow_le_zpow_right₀ (by norm_num) (by push_cast; omega)
  have normal : 2 ^ 52 ≤ number ∨ exponent = -1074 := by
    refine or_iff_not_imp_right.mpr fun above => le_of_mul_le_mul_right ?_ unit
    have same : (2 : ℚ) ^ 52 * 2 ^ exponent = 2 ^ binaryExponent numerator denominator := by
      rw [← zpow_natCast, ← zpow_add₀ (by norm_num)]
      congr 1
      push_cast
      omega
    rwa [same]
  have rounded := roundHalfEven_bounds (numerator * 2 ^ (-exponent).toNat)
    (Nat.mul_pos positive (Nat.two_pow_pos exponent.toNat))
  rw [fraction] at rounded
  obtain ⟨significand, power, canonical, rounds, bits⟩ :=
    exists_rounds_of_scaled (by omega) below normal rounded.1 rounded.2.1 rounded.2.2
  refine ⟨significand, power, canonical, rounds, ?_⟩
  rw [bits, place]
  exact if_neg present

/-- The bits of a fraction that rounds to a finite double. -/
theorem nearestBits_of_rounds (positive : 0 < denominator)
    (canonical : Canonical significand exponent) (small : exponent ≤ 971)
    (rounds : Rounds significand exponent (numerator / denominator)) :
    nearestBits numerator denominator = (exponent + 1074).toNat * 2 ^ 52 + significand := by
  by_cases present : numerator = 0
  · have zero : Rounds 0 (-1074) (numerator / denominator) := by
      have exact := rounds_self 0 (-1074)
      simpa [present] using exact
    obtain ⟨rfl, rfl⟩ := Rounds.unique canonical ⟨by norm_num, le_rfl, .inr rfl⟩ rounds zero
    rw [nearestBits, if_pos present]
    rfl
  · obtain ⟨next, power, others, found, bits⟩ := exists_rounds present positive
    obtain ⟨rfl, rfl⟩ := Rounds.unique canonical others rounds found
    have below := canonical.below
    rw [bits]
    omega

/-- A fraction in the range of a finite double is read as that double. -/
theorem parts_nearest (negative : Bool) (positive : 0 < denominator)
    (canonical : Canonical significand exponent) (small : exponent ≤ 971)
    (rounds : Rounds significand exponent (numerator / denominator)) :
    parts (nearest negative numerator denominator) = .finite negative significand exponent := by
  have found := nearestBits_of_rounds positive canonical small rounds
  obtain ⟨below, least, normal⟩ := canonical
  have pattern : (nearest negative numerator denominator).toBits.toNat =
      (if negative then 2 ^ 63 else 0) + ((exponent + 1074).toNat * 2 ^ 52 + significand) := by
    have sign : Nat.pow 2 63 = 2 ^ 63 := rfl
    have count : fractionCount = 2 ^ 52 := rfl
    rw [nearest, found, sign, toBits_ofBits]
    · rw [UInt64.toNat_ofNat']
      cases negative <;> simp only [Bool.false_eq_true, if_false, if_true] <;> omega
    · rw [exponentField, UInt64.toNat_ofNat', count]
      cases negative <;> simp only [Bool.false_eq_true, if_false, if_true] <;> omega
  obtain ⟨sign, biased, fraction, ⟨bits, field, rest⟩, cases⟩ :=
    parts_cases (nearest negative numerator denominator)
  rw [pattern] at bits
  obtain rfl : sign = negative := by
    cases sign <;> cases negative <;> simp only [Bool.false_eq_true, if_false, if_true] at bits ⊢ <;>
      omega
  -- The fields differ from significand and exponent by the leading bit, if there is one.
  replace bits : (exponent + 1074).toNat * 2 ^ 52 + significand = biased * 2 ^ 52 + fraction := by
    omega
  rcases cases with ⟨full, _, _⟩ | ⟨full, _, _⟩ | ⟨subnormal, same⟩ | ⟨_, present, same⟩
  · omega
  · omega
  · have place : exponent = -1074 := by omega
    have equal : fraction = significand := by omega
    rw [same, place, equal]
  · have place : (biased : Int) - 1075 = exponent := by omega
    have equal : 2 ^ 52 + fraction = significand := by omega
    rw [same, place, equal]

/-- The nearest double to a fraction is the one that the fraction rounds to. -/
theorem nearest_of_rounds {value : Float}
    (finite : parts value = .finite negative significand exponent) (positive : 0 < denominator)
    (rounds : Rounds significand exponent (numerator / denominator)) :
    nearest negative numerator denominator = value := by
  have same := parts_nearest negative positive (canonical_of_parts finite)
    (exponent_le_of_parts finite) rounds
  have number : IsNumber (nearest negative numerator denominator) := by simp [IsNumber, same]
  exact parts_inj number (same.trans finite.symm)

/-! ## Whole numbers -/

/-- A whole number of at most 53 bits is a significand times a power of two. -/
theorem exists_canonical {whole : Nat} (small : whole < 2 ^ 53) :
    ∃ significand exponent, Canonical significand exponent ∧ exponent ≤ 0 ∧
      (whole : ℚ) = significand * 2 ^ exponent := by
  by_cases present : whole = 0
  · exact ⟨0, -1074, ⟨by norm_num, le_rfl, .inr rfl⟩, by norm_num, by simp [present]⟩
  · have log : whole.log2 ≤ 52 := Nat.lt_succ_iff.mp ((Nat.log2_lt present).mpr small)
    have least : 2 ^ whole.log2 ≤ whole := Nat.log2_self_le present
    have most : whole < 2 ^ (whole.log2 + 1) := Nat.lt_log2_self
    have shift := Nat.two_pow_pos (52 - whole.log2)
    refine ⟨whole * 2 ^ (52 - whole.log2), whole.log2 - 52, ⟨?_, by omega, .inl ?_⟩, by omega, ?_⟩
    · calc whole * 2 ^ (52 - whole.log2) < 2 ^ (whole.log2 + 1) * 2 ^ (52 - whole.log2) :=
            Nat.mul_lt_mul_of_pos_right most shift
        _ = 2 ^ 53 := by rw [← Nat.pow_add]; congr 1; omega
    · calc 2 ^ 52 = 2 ^ whole.log2 * 2 ^ (52 - whole.log2) := by
            rw [← Nat.pow_add]; congr 1; omega
        _ ≤ whole * 2 ^ (52 - whole.log2) := Nat.mul_le_mul_right _ least
    · have back : (2 : ℚ) ^ (52 - whole.log2) * 2 ^ ((whole.log2 : Int) - 52) = 1 := by
        rw [← zpow_natCast, ← zpow_add₀ (by norm_num)]
        have none : ((52 - whole.log2 : Nat) : Int) + ((whole.log2 : Int) - 52) = 0 := by omega
        rw [none, zpow_zero]
      push_cast
      rw [mul_assoc, back, mul_one]

/-- Such a number is a double, so nothing is rounded. -/
theorem parts_nearest_whole (negative : Bool) {whole : Nat} (small : whole < 2 ^ 53) :
    ∃ (significand : Nat) (exponent : Int), (whole : ℚ) = significand * 2 ^ exponent ∧
      parts (nearest negative whole 1) = .finite negative significand exponent := by
  obtain ⟨significand, exponent, canonical, bound, same⟩ := exists_canonical small
  refine ⟨significand, exponent, same, ?_⟩
  refine parts_nearest negative Nat.one_pos canonical (by omega) ?_
  rw [Nat.cast_one, div_one, same]
  exact rounds_self significand exponent

end FigureScript.Binary64
