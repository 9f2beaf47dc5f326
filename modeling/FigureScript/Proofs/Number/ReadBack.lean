import FigureScript.Proofs.Number.Nearest
import FigureScript.Proofs.Number.Reading

namespace FigureScript.Number

open Lexer (Digits digits_toString positional_parts scientific_parts)
open Binary64 (IsNumber Rounds canonical_of_parts nearest)

/-! # Doubles read back

A script takes digits alone for an integer and any other numeral for the double nearest to it. Main
statement: what a script gets for the numeral of a finite double is the same number, an integer
exactly where the double is whole and has at most 53 bits.
-/

/-- What a numeral is taken for. -/
inductive Scalar where
  | integer (value : Int)
  | float (value : Float)

/-- The double nearest to a decimal. -/
def Decimal.double (decimal : Decimal) (negative : Bool) : Float :=
  nearest negative (decimal.digits * 10 ^ decimal.exponent.toNat)
    (10 ^ (-decimal.exponent).toNat)

def scalar? (characters : List Char) : Option Scalar :=
  (numeral? characters).map fun (negative, decimal) =>
    if '.' ∈ characters ∨ 'e' ∈ characters then .float (decimal.double negative)
    else .integer (if negative then -decimal.digits else decimal.digits)

/-- A finite double as a number. -/
def signed (negative : Bool) (significand : Nat) (exponent : Int) : ℚ :=
  (if negative then -1 else 1) * (significand * 2 ^ exponent)

variable {value : Float} {negative : Bool} {significand : Nat} {exponent : Int}

theorem Decimal.value_eq_div (decimal : Decimal) :
    decimal.value = ((decimal.digits * 10 ^ decimal.exponent.toNat : Nat) : ℚ) /
      (10 ^ (-decimal.exponent).toNat : Nat) := by
  rw [Decimal.value, zpow_eq_div (by norm_num), ← mul_div_assoc]
  push_cast
  rfl

theorem double_of_rounds {decimal : Decimal}
    (finite : Binary64.parts value = .finite negative significand exponent)
    (rounds : Rounds significand exponent decimal.value) : decimal.double negative = value := by
  rw [decimal.value_eq_div] at rounds
  exact Binary64.nearest_of_rounds finite (Nat.pow_pos (by decide)) rounds

/-- A significand times a power of two that is whole is found to be so. -/
theorem whole?_of_eq {magnitude : Nat} (same : (magnitude : ℚ) = significand * 2 ^ exponent) :
    Binary64.whole? significand exponent = some magnitude := by
  have scale : (0 : ℚ) < 2 ^ (-exponent).toNat := by positivity
  have product : magnitude * 2 ^ (-exponent).toNat = significand * 2 ^ exponent.toNat := by
    rw [zpow_eq_div (by norm_num), ← mul_div_assoc, eq_div_iff scale.ne'] at same
    exact_mod_cast same
  have divides : significand % 2 ^ (-exponent).toNat = 0 := by
    refine Nat.mod_eq_zero_of_dvd ?_
    rcases le_total 0 exponent with up | down
    · have none : (-exponent).toNat = 0 := by omega
      rw [none, Nat.pow_zero]
      exact Nat.one_dvd _
    · have none : exponent.toNat = 0 := by omega
      rw [none, Nat.pow_zero, Nat.mul_one] at product
      exact Dvd.intro_left _ product
  simp only [Binary64.whole?, Nat.pow_eq, divides, if_true, ← product]
  rw [Nat.mul_div_cancel _ (Nat.two_pow_pos _)]

/-! ## Points and exponents -/

theorem plain_of_digits {characters : List Char} (digits : Digits characters) :
    '.' ∉ characters ∧ 'e' ∉ characters :=
  ⟨not_mem_of_digits '.' rfl digits, not_mem_of_digits 'e' rfl digits⟩

theorem point_or_exponent (decimal : Decimal) :
    '.' ∈ (Format.plain.magnitude decimal).toList ∨
      'e' ∈ (Format.plain.magnitude decimal).toList := by
  have row := digits_toString decimal.digits
  unfold Format.magnitude
  dsimp only
  split
  · obtain ⟨whole, fraction, _, _, characters, _⟩ := positional_parts row decimal.exponent
    rw [characters]
    exact .inl (by simp)
  · obtain ⟨first, rest, _, characters⟩ := scientific_parts row
      (decimal.exponent + (toString decimal.digits).length - 1)
    have unsigned : Format.plain.exponentPlus = false := rfl
    rw [unsigned, characters]
    exact .inr (by simp)

theorem mem_signed {text : String} {mark : Char} (other : mark ≠ '-') :
    mark ∈ ((if negative then "-" else "") ++ text).toList ↔ mark ∈ text.toList := by
  cases negative <;> simp [other]

/-! ## The two kinds of numerals -/

/-- Digits are read as an integer. -/
theorem scalar?_digits (negative : Bool) (magnitude : Nat) :
    scalar? ((if negative then "-" else "") ++ toString magnitude).toList =
      some (.integer (if negative then -magnitude else magnitude)) := by
  have row := digits_toString magnitude
  have read : magnitude? (toString magnitude).toList = some ⟨magnitude, 0⟩ := by
    rw [magnitude?_of_plain (plain_of_digits row).2, mantissa?_of_digits row,
      Nat.toString_eq_ofList_toDigits, String.toList_ofList, Nat.ofDigitChars_ten_toDigits]
  have unmarked : ¬ ('.' ∈ ((if negative then "-" else "") ++ toString magnitude).toList ∨
      'e' ∈ ((if negative then "-" else "") ++ toString magnitude).toList) := by
    rw [mem_signed (by decide), mem_signed (by decide), not_or]
    exact plain_of_digits row
  simp only [scalar?, numeral?_signed read, Option.map_some, if_neg unmarked]

/-- The shortest decimal of a double is read as that double. -/
theorem scalar?_decimal (finite : Binary64.parts value = .finite negative significand exponent)
    (present : significand ≠ 0) :
    scalar? ((if negative then "-" else "") ++
        Format.plain.magnitude (shortest .away significand exponent)).toList =
      some (.float value) := by
  obtain ⟨decimal, read, same⟩ := denotes_magnitude (shortest .away significand exponent)
  have rounds := rounds_shortest .away present (canonical_of_parts finite).least
  rw [← same] at rounds
  have marked : '.' ∈ ((if negative then "-" else "") ++
        Format.plain.magnitude (shortest .away significand exponent)).toList ∨
      'e' ∈ ((if negative then "-" else "") ++
        Format.plain.magnitude (shortest .away significand exponent)).toList := by
    rw [mem_signed (by decide), mem_signed (by decide)]
    exact point_or_exponent _
  simp only [scalar?, numeral?_signed read, Option.map_some, if_pos marked,
    double_of_rounds finite rounds]

/-! ## Whole doubles -/

/-- The double is a whole number of at most 53 bits. -/
def IsSmallWhole (whole : Int) (negative : Bool) (significand : Nat) (exponent : Int) : Prop :=
  (whole : ℚ) = signed negative significand exponent ∧ whole.natAbs < 2 ^ 53

theorem isSmallWhole_of_whole? {magnitude : Nat} (negative : Bool)
    (found : Binary64.whole? significand exponent = some magnitude) (small : magnitude < 2 ^ 53) :
    IsSmallWhole (if negative then -magnitude else magnitude) negative significand exponent := by
  have same := whole?_eq_some found
  refine ⟨?_, ?_⟩
  · cases negative <;> simp [signed, ← same]
  · cases negative <;> simpa using small

theorem whole?_of_isSmallWhole {whole : Int}
    (small : IsSmallWhole whole negative significand exponent) :
    Binary64.whole? significand exponent = some whole.natAbs := by
  refine whole?_of_eq ?_
  have amount : (0 : ℚ) ≤ significand * 2 ^ exponent := by positivity
  rw [Nat.cast_natAbs, Int.cast_abs, small.1, signed, abs_mul, abs_of_nonneg amount]
  cases negative <;> simp

theorem isSmallWhole_unique {whole other : Int}
    (first : IsSmallWhole whole negative significand exponent)
    (second : IsSmallWhole other negative significand exponent) : whole = other := by
  exact_mod_cast first.1.trans second.1.symm

/-- A small whole double is written with neither point nor exponent and read as that integer; any
other finite double is written with one of them and read as itself. -/
theorem scalar?_number (finite : Binary64.parts value = .finite negative significand exponent) :
    (∃ whole, IsSmallWhole whole negative significand exponent ∧
      ('.' ∉ (Literal.number value).toList ∧ 'e' ∉ (Literal.number value).toList) ∧
      scalar? (Literal.number value).toList = some (.integer whole)) ∨
    (∀ whole, ¬ IsSmallWhole whole negative significand exponent) ∧
      ('.' ∈ (Literal.number value).toList ∨ 'e' ∈ (Literal.number value).toList) ∧
      scalar? (Literal.number value).toList = some (.float value) := by
  rcases number_cases finite with ⟨magnitude, found, small, text⟩ | ⟨large, text⟩
  · left
    refine ⟨_, isSmallWhole_of_whole? negative found small, ?_, text ▸ scalar?_digits negative _⟩
    rw [text, mem_signed (by decide), mem_signed (by decide)]
    exact plain_of_digits (digits_toString magnitude)
  · right
    have present : significand ≠ 0 := by
      rintro rfl
      exact absurd (large 0 (whole?_zero exponent)) (by norm_num)
    refine ⟨fun whole small => ?_, ?_, text ▸ scalar?_decimal finite present⟩
    · exact absurd small.2 (not_lt.mpr (large _ (whole?_of_isSmallWhole small)))
    · rw [text, mem_signed (by decide), mem_signed (by decide)]
      exact point_or_exponent _

/-- A whole number of at most 53 bits is written with its sign and its digits. -/
theorem number_nearest (negative : Bool) {magnitude : Nat} (small : magnitude < 2 ^ 53) :
    Literal.number (nearest negative magnitude 1) =
      (if negative then "-" else "") ++ toString magnitude := by
  obtain ⟨significand, exponent, same, finite⟩ := Binary64.parts_nearest_whole negative small
  have whole := whole?_of_eq same
  rcases number_cases finite with ⟨found, isFound, _, text⟩ | ⟨large, _⟩
  · cases whole.symm.trans isFound
    exact text
  · exact absurd small (not_lt.mpr (large magnitude whole))

theorem number_ofNat {magnitude : Nat} (small : magnitude < 2 ^ 53) :
    Literal.number (Binary64.ofNat magnitude) = toString magnitude := by
  simpa [Binary64.ofNat] using number_nearest false small

theorem number_ofInt {whole : Int} (small : whole.natAbs < 2 ^ 53) :
    Literal.number (Binary64.ofInt whole) = toString whole := by
  rw [Binary64.ofInt, number_nearest _ small]
  cases whole with
  | ofNat magnitude =>
      have unsigned : decide (Int.ofNat magnitude < 0) = false :=
        decide_eq_false (not_lt.mpr (Int.natCast_nonneg magnitude))
      rw [unsigned]
      exact String.empty_append
  | negSucc less =>
      rw [decide_eq_true (Int.negSucc_lt_zero less)]
      rfl

theorem number_negative_zero (finite : Binary64.parts value = .finite true 0 exponent) :
    Literal.number value = "-0" := by
  rcases number_cases finite with ⟨magnitude, found, _, text⟩ | ⟨large, _⟩
  · rw [whole?_zero, Option.some.injEq] at found
    rw [text, ← found]
    rfl
  · exact absurd (large 0 (whole?_zero exponent)) (by norm_num)

/-- No other double is nearer to the number, and none is as near unless this is the even one. -/
def IsNearest (number : ℚ) (significand : Nat) (exponent : Int) : Prop :=
  ∀ second power, Binary64.Canonical second power → (second = significand → power ≠ exponent) →
    |number - significand * 2 ^ exponent| ≤ |number - second * 2 ^ power| ∧
      (significand % 2 = 1 →
        |number - significand * 2 ^ exponent| < |number - second * 2 ^ power|)

/-- The numeral of a finite double has its sign and a magnitude to which that double is nearest. -/
theorem numeral_nearest (finite : Binary64.parts value = .finite negative significand exponent) :
    ∃ decimal, numeral? (Literal.number value).toList = some (negative, decimal) ∧
      decimal.double negative = value ∧ IsNearest decimal.value significand exponent := by
  obtain ⟨decimal, read, rounds⟩ := numeral_rounds finite
  exact ⟨decimal, read, double_of_rounds finite rounds, fun second power next other =>
    Rounds.closest (canonical_of_parts finite) rounds next other⟩

/-- A double is read back as itself: not-a-number and the infinities under their names, a whole
number of at most 53 bits as that integer, and any other finite double as the float it is. -/
theorem number_reads_back (value : Float) :
    (Binary64.parts value = .notANumber → Literal.number value = "nan") ∧
    (∀ negative, Binary64.parts value = .infinite negative →
      Literal.number value = if negative then "-inf" else "inf") ∧
    (∀ negative significand exponent,
      Binary64.parts value = .finite negative significand exponent →
      (∃ decimal, numeral? (Literal.number value).toList = some (negative, decimal) ∧
        decimal.double negative = value ∧ IsNearest decimal.value significand exponent) ∧
      (('.' ∉ (Literal.number value).toList ∧ 'e' ∉ (Literal.number value).toList) ↔
        ∃ whole, IsSmallWhole whole negative significand exponent) ∧
      (∀ whole, IsSmallWhole whole negative significand exponent →
        scalar? (Literal.number value).toList = some (.integer whole)) ∧
      ((∀ whole, ¬ IsSmallWhole whole negative significand exponent) →
        scalar? (Literal.number value).toList = some (.float value)) ∧
      (negative = true → significand = 0 → Literal.number value = "-0" ∧
        scalar? (Literal.number value).toList = some (.integer 0))) ∧
    (∀ other, IsNumber value → IsNumber other → Literal.number value = Literal.number other →
      value = other) := by
  refine ⟨fun unordered => ?_, fun negative infinite => number_infinite infinite, ?_,
    fun other first second same => number_inj first second same⟩
  · simp only [Literal.number, unordered]
  intro negative significand exponent finite
  -- Small whole numbers are written without a point or an exponent, and all others with one.
  refine ⟨numeral_nearest finite, ?_, ?_, ?_, ?_⟩
  · rcases scalar?_number finite with ⟨whole, small, plain, _⟩ | ⟨none, marked, _⟩
    · exact ⟨fun _ => ⟨whole, small⟩, fun _ => plain⟩
    · refine ⟨fun plain => absurd plain (by tauto), ?_⟩
      rintro ⟨whole, small⟩
      exact absurd small (none whole)
  · intro whole small
    rcases scalar?_number finite with ⟨other, found, _, read⟩ | ⟨none, _⟩
    · rw [read, isSmallWhole_unique found small]
    · exact absurd small (none whole)
  · intro none
    rcases scalar?_number finite with ⟨whole, small, _⟩ | ⟨_, _, read⟩
    · exact absurd small (none whole)
    · exact read
  · rintro rfl rfl
    have text := number_negative_zero finite
    exact ⟨text, text ▸ scalar?_digits true 0⟩

end FigureScript.Number
