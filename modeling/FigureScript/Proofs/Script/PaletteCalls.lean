import Mathlib
import FigureScript.Color
import FigureScript.Proofs.Script.Labels
import FigureScript.Proofs.Script.Scope

namespace FigureScript

open Lexer

/-! # Calls that take a color off the palette

The calls are found in the tokens of a script, where texts between quotes do not count. Main
statements: a script has as many of them as its statements together, and a statement that reads the
palette once, in such a call, has one.
-/

namespace Lexer

/-- How often the tokens read `next(palette)`. -/
def paletteCalls : List Token → Nat
  | [] => 0
  | .word "next" :: .mark '(' :: .word "palette" :: .mark ')' :: rest => paletteCalls rest + 1
  | _ :: rest => paletteCalls rest

def paletteCall : List Token := [.word "next", .mark '(', .word "palette", .mark ')']

theorem paletteCalls_le (tokens : List Token) :
    paletteCalls tokens ≤ (words tokens).count "palette" := by
  fun_induction paletteCalls tokens with
  | case1 => exact Nat.zero_le _
  | case2 rest ih =>
      have here : (words (.word "next" :: .mark '(' :: .word "palette" :: .mark ')' :: rest)).count
          "palette" = (words rest).count "palette" + 1 := by
        simp [words]
      omega
  | case3 token rest _ ih =>
      refine Nat.le_trans ih ?_
      cases token with
      | word text => exact List.count_le_count_cons
      | quoted | unclosed | mark => exact Nat.le_refl _

theorem paletteCalls_pos {tokens : List Token} (present : paletteCall <:+: tokens) :
    0 < paletteCalls tokens := by
  fun_induction paletteCalls tokens with
  | case1 => simp [paletteCall] at present
  | case2 rest => exact Nat.succ_pos _
  | case3 token rest other ih =>
      rcases List.infix_cons_iff.mp present with ⟨behind, here⟩ | inner
      · obtain ⟨rfl, rfl⟩ := List.cons.inj here
        exact absurd rfl (other behind rfl)
      · exact ih inner

/-- A line break keeps calls apart. -/
theorem paletteCalls_divide (left right : List Token) :
    paletteCalls (left ++ .mark '\n' :: right) = paletteCalls left + paletteCalls right := by
  fun_induction paletteCalls left with
  | case1 => simp [paletteCalls]
  | case2 rest ih =>
      simp only [List.cons_append, paletteCalls, ih]
      omega
  | case3 token rest other ih =>
      rw [List.cons_append, paletteCalls, ih]
      -- A call that begins here ends before the line break.
      intro behind isNext same
      match rest, same with
      | first :: second :: third :: others, same =>
          simp only [List.cons_append, List.cons.injEq] at same
          obtain ⟨rfl, rfl, rfl, _⟩ := same
          exact other others isNext rfl
      | [_, _], same | [_], same | [], same => simp at same

/-- The palette is read once, and that takes a color off it. -/
structure TakesOne (tokens : List Token) : Prop where
  single : (words tokens).count "palette" = 1
  call : paletteCall <:+: tokens

namespace TakesOne

variable {tokens left right : List Token}

theorem paletteCalls_eq (one : TakesOne tokens) : paletteCalls tokens = 1 :=
  Nat.le_antisymm (one.single ▸ paletteCalls_le tokens) (paletteCalls_pos one.call)

theorem surround (one : TakesOne tokens) (front : "palette" ∉ words left)
    (back : "palette" ∉ words right) : TakesOne (left ++ tokens ++ right) where
  single := by
    simp [List.count_append, one.single, List.count_eq_zero_of_not_mem front,
      List.count_eq_zero_of_not_mem back]
  call := one.call.trans (List.infix_append left tokens right)

theorem behind (one : TakesOne tokens) (front : "palette" ∉ words left) :
    TakesOne (left ++ tokens) := by
  have empty : "palette" ∉ words [] := List.not_mem_nil
  have whole := one.surround front empty
  rwa [List.append_nil] at whole

theorem before (one : TakesOne tokens) (back : "palette" ∉ words right) :
    TakesOne (tokens ++ right) := by
  have empty : "palette" ∉ words [] := List.not_mem_nil
  exact one.surround empty back

theorem separated (one : TakesOne tokens) {front back : List (List Token)}
    (first : ∀ part ∈ front, "palette" ∉ words part)
    (last : ∀ part ∈ back, "palette" ∉ words part) :
    TakesOne ([.mark ','].intercalate (front ++ tokens :: back)) := by
  induction front with
  | nil =>
      cases back with
      | nil => simpa using one
      | cons second others =>
          rw [List.nil_append, List.intercalate_cons_cons, List.append_assoc]
          refine one.before ?_
          simpa using last
  | cons part others ih =>
      have inner := ih fun other member => first other (List.mem_cons_of_mem _ member)
      have apart : others ++ tokens :: back ≠ [] := by simp
      obtain ⟨next, rest, same⟩ := List.exists_cons_of_ne_nil apart
      rw [List.cons_append, same, List.intercalate_cons_cons, ← same]
      refine inner.behind ?_
      simpa using first part List.mem_cons_self

end TakesOne

end Lexer

/-! ## Expressions and statements -/

namespace Expr

variable {word quote : String → Prop}

theorem palette_not_mem {expression : Expr} (free : ¬ word "palette")
    (uses : expression.Uses word quote) : "palette" ∉ words expression.tokens :=
  fun read => free (Uses.words expression uses read (by decide))

theorem takesOne_palette : TakesOne Color.palette.expr.tokens :=
  ⟨by decide, List.infix_rfl⟩

theorem takesOne_named {parameter : String} {value : Expr} (other : parameter ≠ "palette")
    (one : TakesOne value.tokens) : TakesOne (named parameter value).tokens := by
  have front : "palette" ∉ words [.word parameter, .mark '='] := by simpa using Ne.symm other
  exact one.behind front

theorem takesOne_call {function item : Expr} {front back : List Expr} (free : ¬ word "palette")
    (called : function.Uses word quote) (first : ∀ other ∈ front, other.Uses word quote)
    (one : TakesOne item.tokens) (last : ∀ other ∈ back, other.Uses word quote) :
    TakesOne (call function (front ++ item :: back)).tokens := by
  have left : ∀ part ∈ front.map tokens, "palette" ∉ words part :=
    List.forall_mem_map.mpr fun other member => palette_not_mem free (first other member)
  have right : ∀ part ∈ back.map tokens, "palette" ∉ words part :=
    List.forall_mem_map.mpr fun other member => palette_not_mem free (last other member)
  have opened : "palette" ∉ words (function.tokens ++ [.mark '(']) := by
    simpa using palette_not_mem free called
  have closed : "palette" ∉ words [.mark ')'] := by simp
  have whole := (one.separated left right).surround opened closed
  simpa [tokens, tokensEach_eq_map] using whole

end Expr

namespace Statement

variable {word quote : String → Prop}

/-- A statement without the palette takes no color off it. -/
theorem Uses.paletteCalls_eq_zero {statement : Statement} (uses : statement.Uses word quote)
    (free : ¬ word "palette") : paletteCalls statement.tokens = 0 := by
  have absent : "palette" ∉ Lexer.words statement.tokens :=
    fun read => free (uses.words read (by decide))
  exact Nat.le_zero.mp (List.count_eq_zero_of_not_mem absent ▸ paletteCalls_le statement.tokens)

theorem takesOne_extend {target : String} {value : Expr} (other : target ≠ "palette")
    (one : TakesOne value.tokens) : TakesOne (extend target value).tokens := by
  have front : "palette" ∉ words [.word target, .mark '+', .mark '='] := by
    simpa using Ne.symm other
  exact one.behind front

end Statement

/-! ## Whole scripts -/

/-- How many colors the lines of the statements take off the palette. -/
def paletteCallsOf (statements : List Statement) : Nat :=
  (statements.map fun statement => paletteCalls (Lexer.tokens .plain statement.text)).sum

@[simp] theorem paletteCallsOf_append (left right : List Statement) :
    paletteCallsOf (left ++ right) = paletteCallsOf left + paletteCallsOf right := by
  simp [paletteCallsOf]

theorem paletteCallsOf_flatMap {α : Type} (items : List α) (part : α → List Statement) :
    paletteCallsOf (items.flatMap part) =
      (items.map fun item => paletteCallsOf (part item)).sum := by
  induction items with
  | nil => rfl
  | cons item rest ih =>
      rw [List.flatMap_cons, paletteCallsOf_append, ih, List.map_cons, List.sum_cons]

section

variable {statements : List Statement}

theorem paletteCallsOf_eq (legible : ∀ statement ∈ statements, statement.Legible .plain) :
    paletteCallsOf statements =
      (statements.map fun statement => paletteCalls statement.tokens).sum := by
  refine congrArg List.sum (List.map_congr_left fun statement member => ?_)
  rw [Statement.tokens_text (legible statement member)]

theorem Confined.paletteCallsOf_eq_zero {names : List String} {quote : String → Prop}
    (confined : Confined names quote statements) (free : "palette" ∉ names)
    (legible : ∀ statement ∈ statements, statement.Legible .plain) :
    paletteCallsOf statements = 0 := by
  rw [paletteCallsOf_eq legible, List.sum_eq_zero_iff_forall_eq_nat, List.forall_mem_map]
  exact fun statement member => (confined statement member).paletteCalls_eq_zero free

theorem paletteCalls_lines (statements : List Statement) :
    paletteCalls (statements.flatMap fun statement => statement.tokens ++ [.mark '\n']) =
      (statements.map fun statement => paletteCalls statement.tokens).sum := by
  induction statements with
  | nil => rfl
  | cons statement rest ih =>
      rw [List.flatMap_cons, List.append_assoc, List.singleton_append, paletteCalls_divide, ih,
        List.map_cons, List.sum_cons]

/-- A script takes as many colors off the palette as its lines together. -/
theorem paletteCalls_render (legible : ∀ statement ∈ statements, statement.Legible .plain)
    (present : (Script.ofStatements statements).lines ≠ [])
    (visible : (Script.ofStatements statements).lines ≠ [""]) :
    paletteCalls (Lexer.tokens .plain (Script.ofStatements statements).render) =
      paletteCallsOf statements := by
  rw [Lexer.tokens, Script.toList_render present visible, Script.lines_ofStatements,
    List.flatMap_map, (Script.spells_lines legible).read, paletteCalls_lines,
    paletteCallsOf_eq legible]

end

end FigureScript
