import FigureScript.Proofs.Number.Shortest
import FigureScript.Proofs.Script.Numerals

namespace FigureScript.Number

open Lexer (Digits digits_toString positional_parts scientific_parts)
open Binary64 (IsNumber Rounds canonical_of_parts parts_inj)

/-! # Numerals read back

A numeral is read as a decimal: digits with at most one point among them, and perhaps an exponent.
Main statements: the numeral of a finite double denotes a decimal that rounds to that double, and so
different doubles have different numerals.
-/

/-! ## Reading -/

/-- What stands in front of the first such mark, and what stands behind it if there is one. -/
def cutAt (mark : Char) (characters : List Char) : List Char × Option (List Char) :=
  (characters.takeWhile (· != mark), (characters.dropWhile (· != mark)).tail?)

def natural? (characters : List Char) : Option Nat :=
  if !characters.isEmpty && characters.all Char.isDigit then
    some (Nat.ofDigitChars 10 characters 0)
  else none

def integer? : List Char → Option Int
  | '-' :: rest => (natural? rest).map fun value => -Int.ofNat value
  | characters => (natural? characters).map Int.ofNat

/-- Digits, and at most one point, which has digits on either side. -/
def mantissa? (characters : List Char) : Option Decimal :=
  match cutAt '.' characters with
  | (whole, none) => (natural? whole).map fun value => ⟨value, 0⟩
  | (whole, some fraction) => do
    let front ← natural? whole
    let back ← natural? fraction
    return ⟨10 ^ fraction.length * front + back, -fraction.length⟩

def magnitude? (characters : List Char) : Option Decimal :=
  match cutAt 'e' characters with
  | (mantissa, none) => mantissa? mantissa
  | (mantissa, some power) => do
    let decimal ← mantissa? mantissa
    let exponent ← integer? power
    return ⟨decimal.digits, decimal.exponent + exponent⟩

/-- Whether the numeral is negative, and its magnitude. -/
def numeral? : List Char → Option (Bool × Decimal)
  | '-' :: rest => (magnitude? rest).map fun decimal => (true, decimal)
  | characters => (magnitude? characters).map fun decimal => (false, decimal)

theorem cutAt_of_not_mem {mark : Char} {characters : List Char} (absent : mark ∉ characters) :
    cutAt mark characters = (characters, none) := by
  have plain : ∀ character ∈ characters, (character != mark) = true :=
    fun character member => bne_iff_ne.mpr fun same => absent (same ▸ member)
  simp [cutAt, List.takeWhile_eq_self_iff.mpr plain, List.dropWhile_eq_nil_iff.mpr plain]

theorem cutAt_append {mark : Char} {front : List Char} (absent : mark ∉ front) (back : List Char) :
    cutAt mark (front ++ mark :: back) = (front, some back) := by
  have plain : ∀ character ∈ front, (character != mark) = true :=
    fun character member => bne_iff_ne.mpr fun same => absent (same ▸ member)
  simp [cutAt, List.takeWhile_append_of_pos plain, List.dropWhile_append_of_pos plain]

variable {characters whole fraction : List Char}

theorem not_mem_of_digits (mark : Char) (other : mark.isDigit = false)
    (digits : Digits characters) : mark ∉ characters := by
  intro member
  rw [digits.digit mark member] at other
  contradiction

theorem natural?_of_digits (digits : Digits characters) :
    natural? characters = some (Nat.ofDigitChars 10 characters 0) :=
  if_pos (by simpa [digits.present] using digits.digit)

theorem natural?_toString (value : Nat) : natural? (toString value).toList = some value := by
  rw [natural?_of_digits (digits_toString value), Nat.toString_eq_ofList_toDigits,
    String.toList_ofList, Nat.ofDigitChars_ten_toDigits]

theorem natural?_toDigits (value : Nat) : natural? (Nat.toDigits 10 value) = some value := by
  have read := natural?_toString value
  rwa [Nat.toString_eq_ofList_toDigits, String.toList_ofList] at read

theorem integer?_of_sign (value : Int) :
    integer? ((if value < 0 then "-" else "").toList ++ (toString value.natAbs).toList) =
      some value := by
  have row := natural?_toString value.natAbs
  by_cases negative : value < 0
  · have magnitude : -Int.ofNat value.natAbs = value := by rw [Int.ofNat_eq_natCast]; omega
    have sign : "-".toList ++ (toString value.natAbs).toList =
        '-' :: (toString value.natAbs).toList := rfl
    rw [if_pos negative, sign, integer?, row, Option.map_some, magnitude]
  · have magnitude : Int.ofNat value.natAbs = value := by rw [Int.ofNat_eq_natCast]; omega
    rw [if_neg negative, String.toList_empty, List.nil_append]
    unfold integer?
    split
    · rename_i same
      exact absurd (same ▸ List.mem_cons_self)
        (not_mem_of_digits '-' rfl (digits_toString value.natAbs))
    · rw [row, Option.map_some, magnitude]

theorem mantissa?_of_digits (digits : Digits characters) :
    mantissa? characters = some ⟨Nat.ofDigitChars 10 characters 0, 0⟩ := by
  simp only [mantissa?, cutAt_of_not_mem (not_mem_of_digits '.' rfl digits),
    natural?_of_digits digits, Option.map_some]

theorem mantissa?_of_point (front : Digits whole) (back : Digits fraction) :
    mantissa? (whole ++ '.' :: fraction) =
      some ⟨Nat.ofDigitChars 10 (whole ++ fraction) 0, -fraction.length⟩ := by
  have together : Nat.ofDigitChars 10 (whole ++ fraction) 0 =
      10 ^ fraction.length * Nat.ofDigitChars 10 whole 0 + Nat.ofDigitChars 10 fraction 0 := by
    rw [Nat.ofDigitChars_append, Nat.ofDigitChars_eq_ofDigitChars_zero]
  simp only [mantissa?, cutAt_append (not_mem_of_digits '.' rfl front), natural?_of_digits front,
    natural?_of_digits back, together, Option.pure_def, Option.bind_eq_bind, Option.bind_some]

theorem magnitude?_of_plain (absent : 'e' ∉ characters) :
    magnitude? characters = mantissa? characters := by
  simp only [magnitude?, cutAt_of_not_mem absent]

/-! ## The numerals that are written -/

variable {digits : String} {exponent : Int} {decimal : Decimal}

/-- The characters are a numeral for this number. -/
def Denotes (characters : List Char) (value : ℚ) : Prop :=
  ∃ decimal, magnitude? characters = some decimal ∧ decimal.value = value

theorem denotes_digits (row : Digits characters) :
    Denotes characters (Nat.ofDigitChars 10 characters 0 : Nat) := by
  refine ⟨⟨Nat.ofDigitChars 10 characters 0, 0⟩, ?_, by simp [Decimal.value]⟩
  rw [magnitude?_of_plain (not_mem_of_digits 'e' rfl row), mantissa?_of_digits row]

theorem denotes_positional (row : Digits digits.toList) (exponent : Int) :
    Denotes (positional digits exponent).toList
      (Nat.ofDigitChars 10 digits.toList 0 * 10 ^ exponent) := by
  obtain ⟨whole, fraction, front, back, characters, places, value⟩ := positional_parts row exponent
  have plain : 'e' ∉ whole ++ '.' :: fraction := by
    simp [not_mem_of_digits 'e' rfl front, not_mem_of_digits 'e' rfl back]
  refine ⟨_, by rw [characters, magnitude?_of_plain plain, mantissa?_of_point front back], ?_⟩
  have shifted : (10 : ℚ) ^ (exponent + fraction.length).toNat * 10 ^ (-(fraction.length : Int)) =
      10 ^ exponent := by
    rw [← zpow_natCast, ← zpow_add₀ (by norm_num)]
    congr 1
    omega
  rw [Decimal.value, value, Nat.pow_eq]
  push_cast
  rw [mul_right_comm, shifted, mul_comm]

theorem denotes_scientific (row : Digits digits.toList) (leading : Int) :
    Denotes (scientific false digits leading).toList
      (Nat.ofDigitChars 10 digits.toList 0 * 10 ^ (leading - (digits.length - 1))) := by
  obtain ⟨first, rest, spelled, characters⟩ := scientific_parts row leading
  have length : digits.length = rest.length + 1 := by
    rw [← String.length_toList, spelled, List.length_cons]
  rw [spelled] at row ⊢
  have front : Digits [first] := ⟨by simp, by simpa using row.digit first (by simp)⟩
  -- Both forms of the mantissa denote the digits behind the first place.
  have mantissa : 'e' ∉ (first :: if rest = [] then [] else '.' :: rest) ∧
      mantissa? (first :: if rest = [] then [] else '.' :: rest) =
        some ⟨Nat.ofDigitChars 10 (first :: rest) 0, -(rest.length : Int)⟩ := by
    by_cases single : rest = []
    · subst single
      exact ⟨not_mem_of_digits 'e' rfl front, mantissa?_of_digits front⟩
    · have back : Digits rest := ⟨single, fun character member => row.digit character (by simp [member])⟩
      rw [if_neg single]
      refine ⟨?_, mantissa?_of_point front back⟩
      have both := not_mem_of_digits 'e' rfl row
      simpa using both
  refine ⟨⟨Nat.ofDigitChars 10 (first :: rest) 0, -rest.length + leading⟩, ?_, ?_⟩
  · rw [characters, magnitude?, cutAt_append mantissa.1]
    simp only [mantissa.2, integer?_of_sign, Option.pure_def, Option.bind_eq_bind,
      Option.bind_some]
  · have place : -(rest.length : Int) + leading = leading - (digits.length - 1) := by omega
    rw [Decimal.value, place]

/-- A decimal is written as a numeral for its value. -/
theorem denotes_magnitude (decimal : Decimal) :
    Denotes (Format.plain.magnitude decimal).toList decimal.value := by
  have row := digits_toString decimal.digits
  have value : Nat.ofDigitChars 10 (toString decimal.digits).toList 0 = decimal.digits := by
    rw [Nat.toString_eq_ofList_toDigits, String.toList_ofList, Nat.ofDigitChars_ten_toDigits]
  unfold Format.magnitude Decimal.value
  dsimp only
  split
  · have written := denotes_positional row decimal.exponent
    rwa [value] at written
  · have written := denotes_scientific row
      (decimal.exponent + (toString decimal.digits).length - 1)
    have place : decimal.exponent + (toString decimal.digits).length - 1 -
        ((toString decimal.digits).length - 1) = decimal.exponent := by omega
    rwa [value, place] at written

/-! ## The numeral of a double -/

/-- A whole significand times a power of two is that number. -/
theorem whole?_eq_some {significand magnitude : Nat} {exponent : Int}
    (whole : Binary64.whole? significand exponent = some magnitude) :
    (magnitude : ℚ) = significand * 2 ^ exponent := by
  simp only [Binary64.whole?, Option.ite_none_right_eq_some, Option.some.injEq] at whole
  obtain ⟨divides, rfl⟩ := whole
  have power : ∀ count, Nat.pow 2 count = 2 ^ count := fun _ => rfl
  simp only [power] at divides ⊢
  have within : 2 ^ (-exponent).toNat ∣ significand * 2 ^ exponent.toNat :=
    (Nat.dvd_of_mod_eq_zero divides).mul_right _
  rw [Nat.cast_div within (by positivity), zpow_eq_div (by norm_num)]
  push_cast
  rw [mul_div_assoc]

/-- Zero is whole, so it is no number that needs a point. -/
theorem whole?_zero (exponent : Int) : Binary64.whole? 0 exponent = some 0 := by
  simp [Binary64.whole?]

theorem cutAt_cons {mark first : Char} (other : first ≠ mark) (rest : List Char) :
    cutAt mark (first :: rest) = (first :: (cutAt mark rest).1, (cutAt mark rest).2) := by
  simp [cutAt, bne_iff_ne.mpr other]

theorem natural?_minus (rest : List Char) : natural? ('-' :: rest) = none := by
  refine if_neg ?_
  simp +decide

/-- A magnitude has no sign. -/
theorem magnitude?_minus (rest : List Char) : magnitude? ('-' :: rest) = none := by
  have mantissa : ∀ front, mantissa? ('-' :: front) = none := by
    intro front
    rw [mantissa?, cutAt_cons (by decide)]
    cases (cutAt '.' front).2 <;> simp [natural?_minus]
  rw [magnitude?, cutAt_cons (by decide)]
  cases (cutAt 'e' rest).2 <;> simp [mantissa]

/-- The sign is read off, whatever numeral stands behind it. -/
theorem numeral?_signed {text : String} {decimal : Decimal}
    (read : magnitude? text.toList = some decimal) (negative : Bool) :
    numeral? ((if negative then "-" else "") ++ text).toList = some (negative, decimal) := by
  cases negative with
  | true => simp [numeral?, read]
  | false =>
      have same : ((if false = true then "-" else "") ++ text).toList = text.toList := by simp
      rw [same]
      unfold numeral?
      split
      · rename_i rest characters
        rw [characters, magnitude?_minus] at read
        contradiction
      · rw [read, Option.map_some]

/-- A whole double of few enough bits is written with its digits, any other as its shortest
decimal. -/
theorem number_cases {value : Float} {negative : Bool} {significand : Nat} {exponent : Int}
    (finite : Binary64.parts value = .finite negative significand exponent) :
    (∃ magnitude, Binary64.whole? significand exponent = some magnitude ∧ magnitude < 2 ^ 53 ∧
      Literal.number value = (if negative then "-" else "") ++ toString magnitude) ∨
    (∀ magnitude, Binary64.whole? significand exponent = some magnitude → 2 ^ 53 ≤ magnitude) ∧
      Literal.number value = (if negative then "-" else "") ++
        Format.plain.magnitude (shortest .away significand exponent) := by
  have limit : Literal.wholeLimit = 2 ^ 53 := rfl
  have decimal : Format.plain.text value = (if negative then "-" else "") ++
      Format.plain.magnitude (shortest .away significand exponent) := by
    simp only [Format.text, Format.finite?, finite, Format.plain]
  simp only [Literal.number, finite, limit, decimal]
  cases whole : Binary64.whole? significand exponent with
  | none => exact .inr ⟨by simp, rfl⟩
  | some magnitude =>
      by_cases small : magnitude < 2 ^ 53
      · exact .inl ⟨magnitude, rfl, small, by simp only [if_pos small]⟩
      · refine .inr ⟨fun other same => ?_, by simp only [if_neg small]⟩
        cases same
        exact not_lt.mp small

/-- The numeral of a finite double has its sign and a magnitude that rounds to it. -/
theorem numeral_rounds {value : Float} {negative : Bool} {significand : Nat} {exponent : Int}
    (finite : Binary64.parts value = .finite negative significand exponent) :
    ∃ decimal, numeral? (Literal.number value).toList = some (negative, decimal) ∧
      Rounds significand exponent decimal.value := by
  rcases number_cases finite with ⟨magnitude, whole, _, same⟩ | ⟨large, same⟩
  · obtain ⟨decimal, read, value⟩ := denotes_digits (digits_toString magnitude)
    refine ⟨decimal, same ▸ numeral?_signed read negative, ?_⟩
    rw [value, Nat.toString_eq_ofList_toDigits, String.toList_ofList,
      Nat.ofDigitChars_ten_toDigits, whole?_eq_some whole]
    exact Binary64.rounds_self significand exponent
  · have present : significand ≠ 0 := by
      rintro rfl
      exact absurd (large 0 (whole?_zero exponent)) (by norm_num)
    obtain ⟨decimal, read, value⟩ := denotes_magnitude (shortest .away significand exponent)
    exact ⟨decimal, same ▸ numeral?_signed read negative,
      value ▸ rounds_shortest .away present (canonical_of_parts finite).least⟩

theorem number_infinite {value : Float} {negative : Bool}
    (infinite : Binary64.parts value = .infinite negative) :
    Literal.number value = if negative then "-inf" else "inf" := by
  simp only [Literal.number, infinite]

theorem number_ne_empty (value : Float) : Literal.number value ≠ "" := by
  intro same
  cases parts : Binary64.parts value with
  | notANumber =>
      simp only [Literal.number, parts] at same
      exact absurd same (by decide)
  | infinite negative =>
      rw [number_infinite parts] at same
      exact absurd same (by cases negative <;> decide)
  | finite negative significand exponent =>
      obtain ⟨decimal, read, _⟩ := numeral_rounds parts
      rw [same] at read
      cases read

/-- Different doubles have different numerals. -/
theorem number_inj {value other : Float} (first : IsNumber value) (second : IsNumber other)
    (same : Literal.number value = Literal.number other) : value = other := by
  -- The names of the infinities are no numerals.
  have apart : ∀ negative : Bool, numeral? (if negative then "-inf" else "inf").toList = none := by
    decide
  cases own : Binary64.parts value with
  | notANumber => exact absurd own first
  | infinite negative =>
      cases others : Binary64.parts other with
      | notANumber => exact absurd others second
      | infinite sign =>
          rw [number_infinite own, number_infinite others] at same
          have equal : negative = sign := by cases negative <;> cases sign <;> simp_all
          exact parts_inj first (by rw [own, others, equal])
      | finite sign significand exponent =>
          obtain ⟨decimal, read, _⟩ := numeral_rounds others
          rw [← same, number_infinite own, apart] at read
          cases read
  | finite negative significand exponent =>
      obtain ⟨decimal, read, rounds⟩ := numeral_rounds own
      cases others : Binary64.parts other with
      | notANumber => exact absurd others second
      | infinite sign =>
          rw [same, number_infinite others, apart] at read
          cases read
      | finite sign second power =>
          obtain ⟨next, readNext, roundsNext⟩ := numeral_rounds others
          rw [same, readNext] at read
          cases read
          obtain ⟨rfl, rfl⟩ := Rounds.unique (canonical_of_parts own) (canonical_of_parts others)
            rounds roundsNext
          exact parts_inj first (own.trans others.symm)

end FigureScript.Number
