import FigureScript.Proofs.Number.ReadBack
import FigureScript.Series.Value

namespace FigureScript.Literal

open Lexer (Digits digits_toString isWordCharacter isWordCharacter_of_isDigit positional_parts
  scientific_parts)
open Binary64 (IsNumber)

/-! # Printed lists taken apart

A printed list is taken apart at its commas, but not at those in a text or in a list of its own. Main
statement: this gives back the printed entries, whatever blanks, commas and brackets are in them, so
different lists are printed differently. Whole numbers of at most 32 bits are printed with their sign
and their digits.
-/

/-! ## Characters of numbers -/

def IsNumeric (character : Char) : Prop :=
  isWordCharacter character = true ∨ character = '.' ∨ character = '-'

instance (character : Char) : Decidable (IsNumeric character) :=
  inferInstanceAs (Decidable (_ ∨ _ ∨ _))

theorem IsNumeric.ne {character mark : Char} (numeric : IsNumeric character)
    (other : ¬ IsNumeric mark) : character ≠ mark :=
  fun same => other (same ▸ numeric)

def Numeric (characters : List Char) : Prop := ∀ character ∈ characters, IsNumeric character

instance (characters : List Char) : Decidable (Numeric characters) := List.decidableBAll _ _

theorem numeric_append {left right : List Char} :
    Numeric (left ++ right) ↔ Numeric left ∧ Numeric right :=
  List.forall_mem_append

theorem numeric_cons {character : Char} {rest : List Char} :
    Numeric (character :: rest) ↔ IsNumeric character ∧ Numeric rest :=
  List.forall_mem_cons

theorem numeric_digits {characters : List Char} (digits : Digits characters) :
    Numeric characters :=
  fun character member => .inl (isWordCharacter_of_isDigit (digits.digit character member))

theorem numeric_sign (negative : Prop) [Decidable negative] :
    Numeric (if negative then "-" else "").toList := by
  split
  · exact List.forall_mem_singleton.mpr (.inr (.inr rfl))
  · exact nofun

theorem numeric_magnitude (decimal : Number.Decimal) :
    Numeric (Number.Format.plain.magnitude decimal).toList := by
  have row := digits_toString decimal.digits
  unfold Number.Format.magnitude
  dsimp only
  split
  · obtain ⟨whole, fraction, front, back, characters, _⟩ := positional_parts row decimal.exponent
    rw [characters, numeric_append, numeric_cons]
    exact ⟨numeric_digits front, .inr (.inl rfl), numeric_digits back⟩
  · obtain ⟨first, rest, spelled, characters⟩ := scientific_parts row
      (decimal.exponent + (toString decimal.digits).length - 1)
    have plain : Number.Format.plain.exponentPlus = false := rfl
    rw [spelled] at row
    obtain ⟨firstDigit, restDigits⟩ := numeric_cons.mp (numeric_digits row)
    have behind : Numeric (if rest = [] then [] else '.' :: rest) := by
      split
      · exact nofun
      · exact numeric_cons.mpr ⟨.inr (.inl rfl), restDigits⟩
    rw [plain, characters, numeric_append, numeric_cons, numeric_cons, numeric_append]
    exact ⟨⟨firstDigit, behind⟩, .inl rfl, numeric_sign _, numeric_digits (digits_toString _)⟩

theorem numeric_number (value : Float) : Numeric (number value).toList := by
  cases parts : Binary64.parts value with
  | notANumber =>
      simp only [number, parts]
      decide
  | infinite negative =>
      rw [Number.number_infinite parts]
      cases negative <;> decide
  | finite negative significand exponent =>
      rcases Number.number_cases parts with ⟨magnitude, _, _, text⟩ | ⟨_, text⟩
      · rw [text, String.toList_append, numeric_append]
        exact ⟨numeric_sign _, numeric_digits (digits_toString magnitude)⟩
      · rw [text, String.toList_append, numeric_append]
        exact ⟨numeric_sign _, numeric_magnitude _⟩

/-! ## Taking a list apart -/

/-- Where a reader of a list stands: in a text or not, and in how many inner lists. -/
structure Place where
  quoted : Bool := false
  depth : Nat := 0
  deriving DecidableEq

namespace Place

def next (place : Place) (character : Char) : Place :=
  if character = '\'' then { place with quoted := !place.quoted }
  else if place.quoted then place
  else if character = '[' then { place with depth := place.depth + 1 }
  else if character = ']' then { place with depth := place.depth - 1 }
  else place

/-- The entry ends here. -/
def Separates (place : Place) (character : Char) : Prop := character = ',' ∧ place = {}

instance (place : Place) (character : Char) : Decidable (place.Separates character) :=
  inferInstanceAs (Decidable (_ ∧ _))

theorem not_separates_of_ne (place : Place) {character : Char} (other : character ≠ ',') :
    ¬ place.Separates character :=
  fun ends => other ends.1

theorem not_separates_of_within {place : Place} (within : place ≠ {}) (character : Char) :
    ¬ place.Separates character :=
  fun ends => within ends.2

end Place

/-- The pieces between the commas of a list. -/
def cut (place : Place) : List Char → List (List Char)
  | [] => [[]]
  | character :: rest =>
    if place.Separates character then [] :: cut place rest
    else (cut (place.next character) rest).modifyHead (character :: ·)

/-- A piece without the blanks in front of it. -/
def entry (piece : List Char) : String := String.ofList (piece.dropWhile (· == ' '))

/-- The entries between the brackets of a list. -/
def entries? (list : String) : Option (List String) :=
  match list.toList with
  | '[' :: rest =>
    if rest.getLast? = some ']' then
      some (if rest.dropLast = [] then [] else (cut {} rest.dropLast).map entry)
    else none
  | _ => none

/-- The entries of the lists in a list. -/
def rows? (list : String) : Option (List (List String)) := do (← entries? list).mapM entries?

/-- These characters stand in one piece, and reading them leads from one place to the other. -/
def Passes (start stop : Place) (characters : List Char) : Prop :=
  ∀ rest, cut start (characters ++ rest) = (cut stop rest).modifyHead (characters ++ ·)

namespace Passes

variable {start middle stop place : Place} {left right characters : List Char} {character : Char}

theorem nil : Passes place place [] := by
  intro rest
  exact congrFun List.modifyHead_id.symm (cut place rest)

theorem append (before : Passes start middle left) (after : Passes middle stop right) :
    Passes start stop (left ++ right) := by
  intro rest
  rw [List.append_assoc, before, after, List.modifyHead_modifyHead]
  congr 1
  funext piece
  exact (List.append_assoc left right piece).symm

theorem single (within : ¬ place.Separates character) :
    Passes place (place.next character) [character] := by
  intro rest
  rw [List.singleton_append, cut, if_neg within]
  rfl

theorem cons (within : ¬ start.Separates character)
    (after : Passes (start.next character) stop characters) :
    Passes start stop (character :: characters) :=
  (single within).append after

/-- Characters that mean nothing at this place. -/
theorem still (each : ∀ character ∈ characters,
    ¬ place.Separates character ∧ place.next character = place) :
    Passes place place characters := by
  induction characters with
  | nil => exact nil
  | cons character rest ih =>
      rw [List.forall_mem_cons] at each
      refine cons each.1.1 ?_
      rw [each.1.2]
      exact ih each.2

end Passes

/-- A text that stands in one piece in any list, with no blank in front. -/
structure IsEntry (item : String) : Prop where
  closed : ∀ depth, Passes ⟨false, depth⟩ ⟨false, depth⟩ item.toList
  starts : ∃ first rest, item.toList = first :: rest ∧ first ≠ ' '

variable {items : List String}

theorem isEntry_number (value : Float) : IsEntry (number value) where
  closed depth := by
    refine Passes.still fun character member => ?_
    have numeric := numeric_number value character member
    have unquoted : character ≠ '\'' := numeric.ne (by decide)
    have opensNothing : character ≠ '[' := numeric.ne (by decide)
    have closesNothing : character ≠ ']' := numeric.ne (by decide)
    refine ⟨Place.not_separates_of_ne _ (numeric.ne (by decide)), ?_⟩
    simp [Place.next, unquoted, opensNothing, closesNothing]
  starts := by
    have numeric := numeric_number value
    cases characters : (number value).toList with
    | nil => exact absurd (String.toList_eq_nil_iff.mp characters) (Number.number_ne_empty value)
    | cons first rest =>
        rw [characters, numeric_cons] at numeric
        refine ⟨first, rest, rfl, ?_⟩
        rintro rfl
        exact absurd numeric.1 (by decide)

theorem isEntry_text {value : String} (unquoted : '\'' ∉ value.toList) : IsEntry (text value) where
  closed depth := by
    have characters : (text value).toList = '\'' :: (value.toList ++ ['\'']) := by
      simp [text]
    have inside : Passes ⟨true, depth⟩ ⟨true, depth⟩ value.toList := by
      refine Passes.still fun character member => ?_
      have other : character ≠ '\'' := fun same => unquoted (same ▸ member)
      refine ⟨Place.not_separates_of_within (by simp) character, ?_⟩
      simp [Place.next, other]
    have closing : Passes ⟨true, depth⟩ ⟨false, depth⟩ ['\''] :=
      Passes.single (Place.not_separates_of_ne _ (by decide))
    rw [characters]
    exact Passes.cons (Place.not_separates_of_ne _ (by decide)) (inside.append closing)
  starts := ⟨'\'', value.toList ++ ['\''], by simp [text], by decide⟩

theorem separated_cons (first second : String) (others : List String) :
    (separated (first :: second :: others)).toList =
      first.toList ++ ',' :: ' ' :: (separated (second :: others)).toList := by
  simp [separated, String.intercalate_cons_cons]

theorem separated_singleton (item : String) : separated [item] = item := by
  simp [separated]

theorem passes_separated (depth : Nat) (each : ∀ item ∈ items, IsEntry item) :
    Passes ⟨false, depth + 1⟩ ⟨false, depth + 1⟩ (separated items).toList := by
  induction items with
  | nil => exact Passes.nil
  | cons item rest ih =>
      rw [List.forall_mem_cons] at each
      have first := each.1.closed (depth + 1)
      cases rest with
      | nil => rwa [separated_singleton]
      | cons next others =>
          have within : ∀ character, ¬ (Place.mk false (depth + 1)).Separates character :=
            Place.not_separates_of_within (by simp)
          rw [separated_cons]
          exact first.append (Passes.cons (within ',') (Passes.cons (within ' ') (ih each.2)))

theorem toList_bracketed (items : List String) :
    (bracketed items).toList = '[' :: ((separated items).toList ++ [']']) := by
  simp [bracketed]

/-- A list is one piece in another list. -/
theorem isEntry_bracketed (each : ∀ item ∈ items, IsEntry item) : IsEntry (bracketed items) where
  closed depth := by
    have closing : Passes ⟨false, depth + 1⟩ ⟨false, depth⟩ [']'] :=
      Passes.single (Place.not_separates_of_ne _ (by decide))
    rw [toList_bracketed]
    exact Passes.cons (Place.not_separates_of_ne _ (by decide))
      ((passes_separated depth each).append closing)
  starts := ⟨'[', _, toList_bracketed items, by decide⟩

theorem cut_of_closed {item : String} (isEntry : IsEntry item) : cut {} item.toList = [item.toList] := by
  have whole := isEntry.closed 0 []
  simpa [cut] using whole

/-- Behind the first piece each one begins with the blank that follows its comma. -/
theorem cut_separated {item : String} {others : List String}
    (each : ∀ entry ∈ item :: others, IsEntry entry) :
    cut {} (separated (item :: others)).toList =
      item.toList :: others.map fun other => ' ' :: other.toList := by
  induction others generalizing item with
  | nil =>
      rw [separated_singleton]
      exact cut_of_closed (each item List.mem_cons_self)
  | cons next rest ih =>
      rw [List.forall_mem_cons] at each
      have behind := ih each.2
      have blank : cut {} (' ' :: (separated (next :: rest)).toList) =
          (cut {} (separated (next :: rest)).toList).modifyHead (' ' :: ·) := rfl
      have comma : cut {} (',' :: ' ' :: (separated (next :: rest)).toList) =
          [] :: cut {} (' ' :: (separated (next :: rest)).toList) := rfl
      rw [separated_cons, each.1.closed 0, comma, blank, behind]
      simp

theorem entry_of_isEntry {item : String} (isEntry : IsEntry item) :
    entry item.toList = item ∧ entry (' ' :: item.toList) = item := by
  obtain ⟨first, rest, characters, visible⟩ := isEntry.starts
  have kept : item.toList.dropWhile (· == ' ') = item.toList := by
    rw [characters]
    simp [visible]
  have dropped : (' ' :: item.toList).dropWhile (· == ' ') = item.toList.dropWhile (· == ' ') := rfl
  rw [entry, entry, dropped, kept]
  exact ⟨String.ofList_toList, String.ofList_toList⟩

/-- The entries of a list are what it was printed from. -/
theorem entries?_bracketed (each : ∀ item ∈ items, IsEntry item) :
    entries? (bracketed items) = some items := by
  have last : ((separated items).toList ++ [']']).getLast? = some ']' := List.getLast?_concat
  simp only [entries?, toList_bracketed, if_pos last, List.dropLast_concat, Option.some.injEq]
  cases items with
  | nil => rfl
  | cons item others =>
      have pieces := cut_separated each
      have present : (separated (item :: others)).toList ≠ [] := by
        obtain ⟨first, rest, characters, _⟩ := (each item List.mem_cons_self).starts
        intro empty
        rw [empty, characters] at pieces
        cases pieces
      rw [List.forall_mem_cons] at each
      have rest : others.map (entry ∘ fun other => ' ' :: other.toList) = others.map id :=
        List.map_congr_left fun other member => (entry_of_isEntry (each.2 other member)).2
      rw [if_neg present, pieces, List.map_cons, List.map_map, (entry_of_isEntry each.1).1, rest,
        List.map_id]

/-! ## Numbers, texts and rows -/

theorem entries?_numberList (values : List Float) :
    entries? (numberList values) = some (values.map number) :=
  entries?_bracketed (List.forall_mem_map.mpr fun value _ => isEntry_number value)

theorem isEntry_numberList (row : List Float) : IsEntry (numberList row) :=
  isEntry_bracketed (List.forall_mem_map.mpr fun value _ => isEntry_number value)

theorem entries?_numberRows (rows : List (List Float)) :
    entries? (numberRows rows) = some (rows.map numberList) :=
  entries?_bracketed (List.forall_mem_map.mpr fun row _ => isEntry_numberList row)

theorem rows?_numberRows (rows : List (List Float)) :
    rows? (numberRows rows) = some (rows.map (·.map number)) := by
  have inner : entries? ∘ numberList = fun row => pure (row.map number) :=
    funext entries?_numberList
  rw [rows?, entries?_numberRows]
  simp only [Option.bind_eq_bind, Option.bind_some, List.mapM_map]
  rw [inner, List.mapM_pure]
  rfl

theorem entries?_textList {values : List String}
    (unquoted : ∀ value ∈ values, '\'' ∉ value.toList) :
    entries? (textList values) = some (values.map text) :=
  entries?_bracketed (List.forall_mem_map.mpr fun value member =>
    isEntry_text (unquoted value member))

/-! ## Different lists -/

theorem map_inj_of_mem {α β : Type} {f : α → β} {first second : List α}
    (each : ∀ left ∈ first, ∀ right ∈ second, f left = f right → left = right)
    (same : first.map f = second.map f) : first = second := by
  induction first generalizing second with
  | nil => exact (List.map_eq_nil_iff.mp same.symm).symm
  | cons left rest ih =>
      cases second with
      | nil => cases same
      | cons right others =>
          rw [List.map_cons, List.map_cons, List.cons.injEq] at same
          have heads := each left List.mem_cons_self right List.mem_cons_self same.1
          have tails := ih (fun one member other behind =>
            each one (List.mem_cons_of_mem _ member) other (List.mem_cons_of_mem _ behind)) same.2
          rw [heads, tails]

theorem map_number_inj {first second : List Float} (left : ∀ value ∈ first, IsNumber value)
    (right : ∀ value ∈ second, IsNumber value) (same : first.map number = second.map number) :
    first = second :=
  map_inj_of_mem (fun value member other behind =>
    Number.number_inj (left value member) (right other behind)) same

theorem injOn_numberList : Set.InjOn numberList {values | ∀ value ∈ values, IsNumber value} := by
  intro first left second right same
  have entries := entries?_numberList first
  rw [same, entries?_numberList, Option.some.injEq] at entries
  exact (map_number_inj right left entries).symm

theorem injOn_numberRows :
    Set.InjOn numberRows {rows | ∀ row ∈ rows, ∀ value ∈ row, IsNumber value} := by
  intro first left second right same
  have rows := rows?_numberRows first
  rw [same, rows?_numberRows, Option.some.injEq] at rows
  exact (map_inj_of_mem (fun row member other behind =>
    map_number_inj (right row member) (left other behind)) rows).symm

theorem text_injective : Function.Injective text := by
  intro value other same
  exact String.append_right_inj _ |>.mp (String.append_left_inj _ |>.mp same)

theorem injOn_textList : Set.InjOn textList {values | ∀ value ∈ values, '\'' ∉ value.toList} := by
  intro first left second right same
  have entries := entries?_textList left
  rw [same, entries?_textList right, Option.some.injEq] at entries
  exact (List.map_injective_iff.mpr text_injective entries).symm

/-! ## Whole numbers -/

/-- Whole numbers with their signs and digits. -/
def wholeList (values : List Int) : String :=
  "[" ++ String.intercalate ", " (values.map toString) ++ "]"

theorem ofInt_natCast (magnitude : Nat) : Binary64.ofInt magnitude = Binary64.ofNat magnitude := by
  have unsigned : decide ((magnitude : Int) < 0) = false :=
    decide_eq_false (not_lt.mpr (Int.natCast_nonneg magnitude))
  rw [Binary64.ofInt, unsigned]
  rfl

theorem numberList_toFloats {α : Type} [SeriesValue α] {whole : α → Int}
    (converted : ∀ value, SeriesValue.toFloat value = Binary64.ofInt (whole value))
    (small : ∀ value, (whole value).natAbs < 2 ^ 53) (values : List α) :
    numberList (SeriesValue.toFloats values) = wholeList (values.map whole) := by
  have numerals : number ∘ SeriesValue.toFloat = toString ∘ whole := by
    funext value
    rw [Function.comp, converted, Number.number_ofInt (small value)]
    rfl
  rw [numberList, SeriesValue.toFloats, List.map_map, numerals, wholeList, List.map_map]
  rfl

/-- Printed lists of numbers, rows of numbers of any lengths, and texts without quotes are taken
apart into what they were printed from, and different ones are printed differently. Integers of all
widths up to 32 bits are printed as themselves. -/
theorem printed_lists_decode :
    (∀ values, entries? (numberList values) = some (values.map number)) ∧
    (∀ rows, entries? (numberRows rows) = some (rows.map numberList) ∧
      rows? (numberRows rows) = some (rows.map (·.map number))) ∧
    (∀ values : List String, (∀ value ∈ values, '\'' ∉ value.toList) →
      entries? (textList values) = some (values.map text)) ∧
    Set.InjOn numberList {values | ∀ value ∈ values, IsNumber value} ∧
    Set.InjOn numberRows {rows | ∀ row ∈ rows, ∀ value ∈ row, IsNumber value} ∧
    Set.InjOn textList {values | ∀ value ∈ values, '\'' ∉ value.toList} ∧
    (∀ values : List Int8,
      numberList (SeriesValue.toFloats values) = wholeList (values.map Int8.toInt)) ∧
    (∀ values : List Int16,
      numberList (SeriesValue.toFloats values) = wholeList (values.map Int16.toInt)) ∧
    (∀ values : List Int32,
      numberList (SeriesValue.toFloats values) = wholeList (values.map Int32.toInt)) ∧
    (∀ values : List UInt8,
      numberList (SeriesValue.toFloats values) = wholeList (values.map fun value => value.toNat)) ∧
    (∀ values : List UInt16,
      numberList (SeriesValue.toFloats values) = wholeList (values.map fun value => value.toNat)) ∧
    (∀ values : List UInt32,
      numberList (SeriesValue.toFloats values) = wholeList (values.map fun value => value.toNat)) := by
  refine ⟨entries?_numberList, fun rows => ⟨entries?_numberRows rows, rows?_numberRows rows⟩,
    fun values => entries?_textList, injOn_numberList, injOn_numberRows, injOn_textList,
    ?_, ?_, ?_, ?_, ?_, ?_⟩
  · refine numberList_toFloats (fun _ => rfl) fun value => ?_
    have bounds := And.intro value.le_toInt value.toInt_lt
    omega
  · refine numberList_toFloats (fun _ => rfl) fun value => ?_
    have bounds := And.intro value.le_toInt value.toInt_lt
    omega
  · refine numberList_toFloats (fun _ => rfl) fun value => ?_
    have bounds := And.intro value.le_toInt value.toInt_lt
    omega
  · refine numberList_toFloats (fun value => (ofInt_natCast value.toNat).symm) fun value => ?_
    have bound := value.toNat_lt
    omega
  · refine numberList_toFloats (fun value => (ofInt_natCast value.toNat).symm) fun value => ?_
    have bound := value.toNat_lt
    omega
  · refine numberList_toFloats (fun value => (ofInt_natCast value.toNat).symm) fun value => ?_
    have bound := value.toNat_lt
    omega

/-- Texts that look like several entries or like lists are still one entry each. -/
theorem lookalikes_decode :
    (∀ value ∈ ["a, b", "[1, 2]", "", " ] "], '\'' ∉ value.toList) ∧
      entries? (textList ["a, b", "[1, 2]", "", " ] "]) =
        some ["'a, b'", "'[1, 2]'", "''", "' ] '"] ∧
      textList ["a, b"] ≠ textList ["a", "b"] ∧
      rows? (numberRows [[1, -2.5], [], [Binary64.infinity true]]) =
        some [["1", "-2.5"], [], ["-inf"]] ∧
      numberRows [[1, -2.5], []] ≠ numberRows [[1], [-2.5]] := by
  have decode := printed_lists_decode
  have unquoted : ∀ value ∈ ["a, b", "[1, 2]", "", " ] "], '\'' ∉ value.toList := by decide
  have one : IsNumber 1 := by unfold IsNumber; decide
  have half : IsNumber (-2.5) := by unfold IsNumber; decide
  have numerals : number 1 = "1" ∧ number (-2.5) = "-2.5" ∧
      number (Binary64.infinity true) = "-inf" := by decide
  refine ⟨unquoted, decode.2.2.1 _ unquoted, ?_, ?_, ?_⟩
  · intro same
    have texts := decode.2.2.2.2.2.1 (by decide) (by decide) same
    exact absurd texts (by decide)
  · rw [(decode.2.1 _).2]
    simp [numerals]
  · intro same
    have rows := decode.2.2.2.2.1 (by simp [one, half]) (by simp [one, half]) same
    cases rows

end FigureScript.Literal
