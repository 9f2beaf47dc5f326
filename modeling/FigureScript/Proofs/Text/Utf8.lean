import Mathlib.Data.List.Forall2
import FigureScript.Text.Utf8

namespace FigureScript.Utf8

/-! # Texts as bytes and back

Every text is read back from its bytes. A character is read from the first byte that is written for it
and from as many bytes behind that one as its first byte announces.
-/

/-- The byte keeps to the bounds. -/
def Within (bound : UInt8 × UInt8) (byte : UInt8) : Prop := bound.1 ≤ byte ∧ byte ≤ bound.2

theorem fitting_append {bounds : List (UInt8 × UInt8)} {bytes : List UInt8}
    (within : List.Forall₂ Within bounds bytes) (rest : List UInt8) :
    fitting bounds (bytes ++ rest) = bytes.length := by
  induction within with
  | nil => cases rest <;> rfl
  | cons first _ ih =>
      rw [List.cons_append, fitting, if_pos ⟨first.1, first.2⟩, ih]
      rfl

/-- A first byte with the bytes that belong to it. -/
theorem step_of_followers {first : UInt8} {bounds : List (UInt8 × UInt8)} {others : List UInt8}
    {character : Char} (opened : followers first = some bounds)
    (within : List.Forall₂ Within bounds others)
    (code : others.foldl (fun code byte => code * 64 + byte.toNat % 64) (leadingBits first) =
      character.toNat) (rest : List UInt8) :
    step first (others ++ rest) = (some character, others.length) := by
  have same := within.length_eq
  simp only [step, opened, fitting_append within, same, if_true, List.take_left, code,
    Char.ofNat_toNat]

/-! ## First bytes and what follows them -/

theorem first_of_one : ∀ n < 128,
    followers (UInt8.ofNat n) = some [] ∧ leadingBits (UInt8.ofNat n) = n := by
  decide

theorem first_of_two : ∀ n < 32, 2 ≤ n →
    followers (UInt8.ofNat (n + 192)) = some [(0x80, 0xbf)] ∧
      leadingBits (UInt8.ofNat (n + 192)) = n := by
  decide

theorem first_of_three : ∀ n < 16,
    followers (UInt8.ofNat (n + 224)) =
      some [(if n = 0 then 0xa0 else 0x80, if n = 13 then 0x9f else 0xbf), (0x80, 0xbf)] ∧
      leadingBits (UInt8.ofNat (n + 224)) = n := by
  decide

theorem first_of_four : ∀ n < 5,
    followers (UInt8.ofNat (n + 240)) =
      some [(if n = 0 then 0x90 else 0x80, if n = 4 then 0x8f else 0xbf), (0x80, 0xbf),
        (0x80, 0xbf)] ∧
      leadingBits (UInt8.ofNat (n + 240)) = n := by
  decide

theorem within_byte {low high : UInt8} {n : Nat} (above : low.toNat ≤ n) (below : n ≤ high.toNat) :
    Within (low, high) (UInt8.ofNat n) := by
  have small := high.toNat_lt
  have value : (UInt8.ofNat n).toNat = n := by
    simp
    omega
  rw [Within, UInt8.le_iff_toNat_le, UInt8.le_iff_toNat_le, value]
  exact ⟨above, below⟩

theorem within_following (n : Nat) : Within (0x80, 0xbf) (UInt8.ofNat (n % 64 + 128)) := by
  apply within_byte
  · simp
  · simp
    omega

theorem following_bits (n : Nat) : (UInt8.ofNat (n % 64 + 128)).toNat % 64 = n % 64 := by
  simp
  omega

/-! ## Characters -/

/-- A character is read from its bytes, whatever stands behind them. -/
theorem step_encodeChar (character : Char) (rest : List UInt8) :
    ∃ first others, String.utf8EncodeChar character = first :: others ∧
      step first (others ++ rest) = (some character, others.length) := by
  -- Surrogates are no characters, which keeps the second byte behind 0xed small enough.
  have valid : character.toNat < 0xd800 ∨ 0xdfff < character.toNat ∧ character.toNat < 0x110000 :=
    character.valid
  have value : character.val.toNat = character.toNat := rfl
  simp only [String.utf8EncodeChar, value]
  split
  · obtain ⟨opened, bits⟩ := first_of_one character.toNat (by omega)
    exact ⟨_, _, rfl, step_of_followers opened .nil bits rest⟩
  · split
    · obtain ⟨opened, bits⟩ := first_of_two (character.toNat / 64 % 32) (by omega) (by omega)
      refine ⟨_, _, rfl, step_of_followers opened (.cons (within_following _) .nil) ?_ rest⟩
      simp only [List.foldl_cons, List.foldl_nil, bits, following_bits]
      omega
    · split
      · obtain ⟨opened, bits⟩ := first_of_three (character.toNat / 4096 % 16) (by omega)
        have second : Within (if character.toNat / 4096 % 16 = 0 then 0xa0 else 0x80,
            if character.toNat / 4096 % 16 = 13 then 0x9f else 0xbf)
            (UInt8.ofNat (character.toNat / 64 % 64 + 128)) := by
          apply within_byte
          · split <;> simp
            omega
          · split <;> simp <;> omega
        refine ⟨_, _, rfl,
          step_of_followers opened (.cons second (.cons (within_following _) .nil)) ?_ rest⟩
        simp only [List.foldl_cons, List.foldl_nil, bits, following_bits]
        omega
      · obtain ⟨opened, bits⟩ := first_of_four (character.toNat / 262144 % 8) (by omega)
        have second : Within (if character.toNat / 262144 % 8 = 0 then 0x90 else 0x80,
            if character.toNat / 262144 % 8 = 4 then 0x8f else 0xbf)
            (UInt8.ofNat (character.toNat / 4096 % 64 + 128)) := by
          apply within_byte
          · split <;> simp
            omega
          · split <;> simp <;> omega
        refine ⟨_, _, rfl, step_of_followers opened
          (.cons second (.cons (within_following _) (.cons (within_following _) .nil))) ?_ rest⟩
        simp only [List.foldl_cons, List.foldl_nil, bits, following_bits]
        omega

/-! ## Texts -/

theorem toList_loop (bytes : ByteArray) (index : Nat) (seen : List UInt8) :
    ByteArray.toList.loop bytes index seen = seen.reverse ++ bytes.data.toList.drop index := by
  fun_induction ByteArray.toList.loop bytes index seen with
  | case1 index seen inside ih =>
      have bound : index < bytes.data.toList.length := by simpa using inside
      rw [ih, List.drop_eq_getElem_cons bound]
      simp [ByteArray.get!, inside]
  | case2 index seen outside =>
      rw [List.drop_eq_nil_of_le (by simpa using outside)]
      simp

theorem encode_eq (text : String) : encode text = text.toList.flatMap String.utf8EncodeChar := by
  have bytes : text.toUTF8 = (text.toList.flatMap String.utf8EncodeChar).toByteArray := by
    rw [← List.utf8Encode, ← String.toByteArray_ofList, String.ofList_toList]
    rfl
  rw [encode, bytes, ByteArray.toList, toList_loop]
  simp

theorem lossy_go_encode {characters : List Char} {steps : Nat}
    (enough : (characters.flatMap String.utf8EncodeChar).length ≤ steps) :
    lossy.go steps (characters.flatMap String.utf8EncodeChar) = characters := by
  induction characters generalizing steps with
  | nil => cases steps <;> rfl
  | cons character others ih =>
      obtain ⟨first, following, bytes, read⟩ :=
        step_encodeChar character (others.flatMap String.utf8EncodeChar)
      rw [List.flatMap_cons, bytes, List.cons_append] at enough ⊢
      cases steps with
      | zero => simp at enough
      | succ steps =>
          have rest : (others.flatMap String.utf8EncodeChar).length ≤ steps := by
            simp at enough
            simp
            omega
          simp only [lossy.go, read, List.drop_left, ih rest, Option.getD_some]

theorem lossy_encode (text : String) : lossy (encode text) = text := by
  rw [lossy, encode_eq, lossy_go_encode (Nat.le_refl _), String.ofList_toList]

end FigureScript.Utf8
