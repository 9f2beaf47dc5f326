import FigureScript.Proofs.Script.Lexer

namespace FigureScript.Lexer

/-! # Numbers as tokens

A number is read as words that begin with a digit, with points and minus signs between them, or as
one of the names for the values that have no digits. So it is never mistaken for another name.
-/

def IsNumeral : Token → Prop
  | .word text => text = "nan" ∨ text = "inf" ∨
      ∃ first rest, text.toList = first :: rest ∧ first.isDigit = true
  | .mark character => character = '.' ∨ character = '-'
  | .quoted _ | .unclosed _ => False

/-- What a token is read from, without the blanks around it. -/
def Token.characters : Token → List Char
  | .word text => text.toList
  | .mark character => [character]
  | .quoted text => '\'' :: (text.toList ++ ['\''])
  | .unclosed text => '\'' :: text.toList

/-- `characters` are a number, whatever ends a literal, and none of them is lost. -/
def SpellsNumber (characters : List Char) : Prop :=
  ∃ tokens, (∀ quoting, Spells quoting characters tokens) ∧ (∀ token ∈ tokens, IsNumeral token) ∧
    tokens.flatMap Token.characters = characters

namespace SpellsNumber

variable {left right : List Char}

theorem digits {first : Char} {rest : List Char} (digit : first.isDigit = true)
    (letters : ∀ character ∈ rest, isWordCharacter character = true) :
    SpellsNumber (first :: rest) := by
  have isWord : IsWord (String.ofList (first :: rest)) := by
    refine ⟨by simp, fun character member => ?_⟩
    rw [String.toList_ofList] at member
    rcases List.mem_cons.mp member with rfl | member
    · simp [isWordCharacter, Char.isAlphanum, digit]
    · exact letters character member
  refine ⟨[.word (String.ofList (first :: rest))], fun quoting => ?_, ?_, by
    simp [Token.characters]⟩
  · simpa only [String.toList_ofList] using Spells.word quoting isWord
  · intro token member
    rw [List.mem_singleton.mp member]
    exact .inr (.inr ⟨first, rest, String.toList_ofList, digit⟩)

theorem name {text : String} (isWord : IsWord text) (known : text = "nan" ∨ text = "inf") :
    SpellsNumber text.toList := by
  refine ⟨[.word text], fun quoting => Spells.word quoting isWord, fun token member => ?_, by
    simp [Token.characters]⟩
  rw [List.mem_singleton.mp member]
  rcases known with rfl | rfl
  · exact .inl rfl
  · exact .inr (.inl rfl)

theorem join {mark : Char} (before : SpellsNumber left) (known : mark = '.' ∨ mark = '-')
    (after : SpellsNumber right) : SpellsNumber (left ++ mark :: right) := by
  obtain ⟨first, beforeRead, beforeNumerals, beforeWhole⟩ := before
  obtain ⟨second, afterRead, afterNumerals, afterWhole⟩ := after
  have separating : Spells.separates mark = true := by rcases known with rfl | rfl <;> decide
  have single : Spells.separator mark = [.mark mark] := by rcases known with rfl | rfl <;> rfl
  refine ⟨first ++ [.mark mark] ++ second, fun quoting => ?_, fun token member => ?_, by
    simp [Token.characters, beforeWhole, afterWhole]⟩
  · have whole := (beforeRead quoting).separate mark (afterRead quoting) separating
    rwa [single] at whole
  · rw [List.append_assoc, List.mem_append, List.mem_append, List.mem_singleton] at member
    rcases member with member | rfl | member
    · exact beforeNumerals token member
    · exact known
    · exact afterNumerals token member

theorem negative (number : SpellsNumber right) : SpellsNumber ('-' :: right) :=
  join ⟨[], fun _ => Spells.nil, by simp, rfl⟩ (.inr rfl) number

end SpellsNumber

/-! ## The digits of a number -/

structure Digits (characters : List Char) : Prop where
  present : characters ≠ []
  digit : ∀ character ∈ characters, character.isDigit = true

theorem isWordCharacter_of_isDigit {character : Char} (digit : character.isDigit = true) :
    isWordCharacter character = true := by
  simp [isWordCharacter, Char.isAlphanum, digit]

theorem digits_toString (number : Nat) : Digits (toString number).toList := by
  have characters : (toString number).toList = Nat.toDigits 10 number := by
    rw [Nat.toString_eq_ofList_toDigits, String.toList_ofList]
  rw [characters]
  exact ⟨Nat.toDigits_ne_nil,
    fun _ member => Nat.isDigit_of_mem_toDigits (by decide) (by decide) member⟩

namespace Digits

variable {left right : List Char}

theorem zeros_digit {count : Nat} {character : Char}
    (member : character ∈ (Number.zeros count).toList) : character.isDigit = true := by
  rw [Number.zeros, String.toList_ofList] at member
  rw [List.eq_of_mem_replicate member]
  decide

theorem append (front : Digits left)
    (others : ∀ character ∈ right, character.isDigit = true) : Digits (left ++ right) := by
  refine ⟨by simp [front.present], fun character member => ?_⟩
  rcases List.mem_append.mp member with member | member
  · exact front.digit character member
  · exact others character member

theorem spells_append (front : Digits left)
    (letters : ∀ character ∈ right, isWordCharacter character = true) :
    SpellsNumber (left ++ right) := by
  cases left with
  | nil => exact absurd rfl front.present
  | cons first rest =>
      refine SpellsNumber.digits (front.digit first (by simp)) fun character member => ?_
      rcases List.mem_append.mp member with member | member
      · exact isWordCharacter_of_isDigit (front.digit character (by simp [member]))
      · exact letters character member

theorem spells (digits : Digits left) : SpellsNumber left := by
  rw [← List.append_nil left]
  exact digits.spells_append (by simp)

end Digits

/-! ## Layouts of numbers -/

variable {digits : String} {exponent : Int}

/-- The digits before and behind the point. Zeros fill the places up to the point. -/
theorem positional_parts (row : Digits digits.toList) (exponent : Int) :
    ∃ whole fraction, Digits whole ∧ Digits fraction ∧
      (Number.positional digits exponent).toList = whole ++ '.' :: fraction ∧
      0 ≤ exponent + fraction.length ∧
      Nat.ofDigitChars 10 (whole ++ fraction) 0 =
        Nat.pow 10 (exponent + fraction.length).toNat * Nat.ofDigitChars 10 digits.toList 0 := by
  have zero : Digits ['0'] := ⟨by simp, List.forall_mem_singleton.mpr rfl⟩
  have length : digits.toList.length = digits.length := String.length_toList
  by_cases whole : 0 ≤ exponent
  · -- Zeros follow the digits, and one more stands behind the point.
    have front : Digits (digits.toList ++ (Number.zeros exponent.toNat).toList) :=
      row.append fun _ => Digits.zeros_digit
    have places : (exponent + (['0'].length : Nat)).toNat = exponent.toNat + 1 := by simp; omega
    refine ⟨_, ['0'], front, zero, by simp [Number.positional, whole], by simp; omega, ?_⟩
    have padded : digits.toList ++ (Number.zeros exponent.toNat).toList ++ ['0'] =
        digits.toList ++ List.replicate (exponent.toNat + 1) '0' := by
      simp [Number.zeros, List.replicate_succ']
    rw [Nat.pow_eq, places, padded, Nat.ofDigitChars_append, Nat.ofDigitChars_replicate_zero]
  · by_cases inner : (-exponent).toNat < digits.length
    · -- The point stands between two of the digits, and neither side is empty.
      let front := digits.length - (-exponent).toNat
      have frontDigits : Digits (digits.toList.take front) := by
        refine ⟨fun empty => ?_, fun _ member => row.digit _ (List.mem_of_mem_take member)⟩
        have none := congrArg List.length empty
        rw [List.length_take, length, List.length_nil] at none
        omega
      have backDigits : Digits (digits.toList.drop front) := by
        refine ⟨fun empty => ?_, fun _ member => row.digit _ (List.mem_of_mem_drop member)⟩
        have none := congrArg List.length empty
        rw [List.length_drop, length, List.length_nil] at none
        omega
      have places : exponent + ((digits.toList.drop front).length : Nat) = 0 := by
        rw [List.length_drop, length]
        omega
      refine ⟨_, _, frontDigits, backDigits, by simp [Number.positional, whole, inner, front],
        Int.le_of_eq places.symm, ?_⟩
      rw [Nat.pow_eq, places, List.take_append_drop, Int.toNat_zero, Nat.pow_zero, Nat.one_mul]
    · -- All digits stand behind the point, after zeros that fill the places in between.
      let padding := (-exponent).toNat - digits.length
      have back : Digits ((Number.zeros padding).toList ++ digits.toList) := by
        refine ⟨by simp [row.present], fun character member => ?_⟩
        rcases List.mem_append.mp member with member | member
        · exact Digits.zeros_digit member
        · exact row.digit character member
      have places : exponent + (((Number.zeros padding).toList ++ digits.toList).length : Nat) = 0 := by
        simp only [Number.zeros, String.toList_ofList, List.length_append, List.length_replicate,
          length, padding]
        omega
      refine ⟨['0'], _, zero, back, by simp [Number.positional, whole, inner, padding],
        Int.le_of_eq places.symm, ?_⟩
      have padded : ['0'] ++ ((Number.zeros padding).toList ++ digits.toList) =
          List.replicate (padding + 1) '0' ++ digits.toList := by
        simp [Number.zeros, List.replicate_succ]
      rw [Nat.pow_eq, places, padded, Nat.ofDigitChars_append, Nat.ofDigitChars_replicate_zero,
        Int.toNat_zero, Nat.pow_zero, Nat.one_mul, Nat.mul_zero]

theorem spellsNumber_positional (row : Digits digits.toList) :
    SpellsNumber (Number.positional digits exponent).toList := by
  obtain ⟨whole, fraction, front, back, characters, _⟩ := positional_parts row exponent
  rw [characters]
  exact front.spells.join (.inl rfl) back.spells

/-- The exponent part joins the digits before it, up to its sign. -/
theorem Digits.spells_exponent {row : List Char} (mantissa : Digits row) (leading : Int) :
    SpellsNumber (row ++ 'e' :: ((if leading < 0 then "-" else "").toList ++
      (toString leading.natAbs).toList)) := by
  have power := digits_toString leading.natAbs
  by_cases small : leading < 0
  · have characters : row ++ 'e' :: ((if leading < 0 then "-" else "").toList ++
        (toString leading.natAbs).toList) =
          row ++ ['e'] ++ '-' :: (toString leading.natAbs).toList := by
      simp [small]
    rw [characters]
    exact (mantissa.spells_append (List.forall_mem_singleton.mpr rfl)).join (.inr rfl) power.spells
  · simp only [small, if_false, String.toList_empty, List.nil_append]
    refine mantissa.spells_append fun character member => ?_
    rcases List.mem_cons.mp member with rfl | member
    · decide
    · exact isWordCharacter_of_isDigit (power.digit character member)

/-- The digits before the exponent part, with a point behind the first one if there are more. -/
theorem scientific_parts (row : Digits digits.toList) (leading : Int) :
    ∃ first rest, digits.toList = first :: rest ∧
      (Number.scientific false digits leading).toList =
        (first :: if rest = [] then [] else '.' :: rest) ++ 'e' ::
          ((if leading < 0 then "-" else "").toList ++ (toString leading.natAbs).toList) := by
  cases characters : digits.toList with
  | nil => exact absurd characters row.present
  | cons first rest =>
      refine ⟨first, rest, rfl, ?_⟩
      cases rest <;> simp [Number.scientific, characters]

theorem spellsNumber_scientific (row : Digits digits.toList) (leading : Int) :
    SpellsNumber (Number.scientific false digits leading).toList := by
  obtain ⟨first, rest, characters, whole⟩ := scientific_parts row leading
  rw [whole]
  rw [characters] at row
  have firstDigits : Digits [first] :=
    ⟨by simp, fun character member => row.digit character (by simp_all)⟩
  cases rest with
  | nil => exact firstDigits.spells_exponent leading
  | cons second others =>
      have back : Digits (second :: others) :=
        ⟨by simp, fun character member => row.digit character (by simp_all)⟩
      exact firstDigits.spells.join (.inl rfl) (back.spells_exponent leading)

theorem spellsNumber_magnitude (decimal : Number.Decimal) :
    SpellsNumber (Number.Format.plain.magnitude decimal).toList := by
  have row := digits_toString decimal.digits
  unfold Number.Format.magnitude
  dsimp only
  split
  · exact spellsNumber_positional row
  · exact spellsNumber_scientific row _

theorem spellsNumber_signed {negative : Bool} {text : String} (number : SpellsNumber text.toList) :
    SpellsNumber ((if negative then "-" else "") ++ text).toList := by
  cases negative with
  | false => simpa using number
  | true => simpa using number.negative

theorem spellsNumber_number (value : Float) : SpellsNumber (Literal.number value).toList := by
  have laidOut : ∀ negative significand exponent,
      Binary64.parts value = .finite negative significand exponent →
      SpellsNumber (Number.Format.plain.text value).toList := by
    intro negative significand exponent parts
    simp only [Number.Format.text, Number.Format.finite?, parts]
    exact spellsNumber_signed (spellsNumber_magnitude _)
  cases parts : Binary64.parts value with
  | notANumber =>
      simp only [Literal.number, parts]
      exact SpellsNumber.name (by decide) (.inl rfl)
  | infinite negative =>
      simp only [Literal.number, parts]
      have name : SpellsNumber "inf".toList := SpellsNumber.name (by decide) (.inr rfl)
      cases negative with
      | false => exact name
      | true => exact name.negative
  | finite negative significand exponent =>
      simp only [Literal.number, parts]
      split
      · split
        · exact spellsNumber_signed (digits_toString _).spells
        · exact laidOut _ _ _ parts
      · exact laidOut _ _ _ parts

end FigureScript.Lexer
