import FigureScript.Proofs.Script.Calls
import FigureScript.Proofs.Script.Lines

namespace FigureScript

open Lexer

/-! # Label arguments

The `label` arguments of a script are found in its tokens: the word, an equals sign and a closed
literal. Main statement: those of a whole script are those of its statements, one after the other.
-/

namespace Lexer

/-- The text of the label argument that the tokens begin with. -/
def labelArgument? : List Token → Option String
  | .word name :: .mark mark :: .quoted text :: _ =>
    if name = "label" ∧ mark = '=' then some text else none
  | _ => none

/-- The texts of all label arguments, from left to right. -/
def labelArguments : List Token → List String
  | [] => []
  | token :: rest => (labelArgument? (token :: rest)).toList ++ labelArguments rest

/-- A token that stands in no label argument except at its beginning. -/
def Parts : Token → Prop
  | .mark character => character ≠ '='
  | .quoted _ => False
  | .word _ | .unclosed _ => True

theorem labelArgument?_append {first token : Token} {left right : List Token}
    (parts : Parts token) :
    labelArgument? (first :: left ++ token :: right) = labelArgument? (first :: left) := by
  match first, left with
  | .mark _, _ | .quoted _, _ | .unclosed _, _ => rfl
  | .word name, [] =>
      cases token with
      | mark character =>
          have other : character ≠ '=' := parts
          cases right with
          | nil => rfl
          | cons next others => cases next <;> simp [labelArgument?, other]
      | word | unclosed => rfl
      | quoted => exact absurd parts not_false
  | .word name, [.mark character] =>
      cases token with
      | quoted => exact absurd parts not_false
      | mark | word | unclosed => rfl
  | .word _, [.word _] | .word _, [.quoted _] | .word _, [.unclosed _] => rfl
  | .word _, .mark _ :: .quoted _ :: _ | .word _, .mark _ :: .word _ :: _
  | .word _, .mark _ :: .unclosed _ :: _ | .word _, .mark _ :: .mark _ :: _ => rfl
  | .word _, .word _ :: _ :: _ | .word _, .quoted _ :: _ :: _
  | .word _, .unclosed _ :: _ :: _ => rfl

theorem labelArguments_append (left : List Token) {token : Token} (parts : Parts token)
    (right : List Token) :
    labelArguments (left ++ token :: right) =
      labelArguments left ++ labelArguments (token :: right) := by
  induction left with
  | nil => rfl
  | cons first rest ih =>
      have here : labelArgument? (first :: (rest ++ token :: right)) =
          labelArgument? (first :: rest) := labelArgument?_append parts
      rw [List.cons_append, labelArguments, here, ih]
      rw [labelArguments.eq_2 first, List.append_assoc]

@[simp] theorem labelArguments_nil : labelArguments [] = [] := rfl

@[simp] theorem labelArguments_mark (character : Char) (rest : List Token) :
    labelArguments (.mark character :: rest) = labelArguments rest := rfl

@[simp] theorem labelArguments_quoted (text : String) (rest : List Token) :
    labelArguments (.quoted text :: rest) = labelArguments rest := rfl

/-- A word begins a label argument only in front of an equals sign. -/
theorem labelArguments_word (text : String) {rest : List Token}
    (apart : text ≠ "label" ∨ ∀ others, rest ≠ .mark '=' :: others) :
    labelArguments (.word text :: rest) = labelArguments rest := by
  have none : labelArgument? (.word text :: rest) = none := by
    unfold labelArgument?
    split
    · rename_i name mark label others same
      obtain ⟨⟨rfl⟩, rfl⟩ := List.cons.inj same
      refine if_neg fun both => ?_
      rcases apart with other | unmarked
      · exact other both.1
      · exact unmarked _ (by rw [both.2])
    · rfl
  rw [labelArguments, none]
  rfl

theorem labelArguments_of_no_literal {tokens : List Token}
    (plain : ∀ text, .quoted text ∉ tokens) : labelArguments tokens = [] := by
  induction tokens with
  | nil => rfl
  | cons token rest ih =>
      have others := ih fun text member => plain text (List.mem_cons_of_mem _ member)
      have none : labelArgument? (token :: rest) = none := by
        unfold labelArgument?
        split
        · rename_i name mark label behind same
          exact absurd (same ▸ by simp) (plain label)
        · rfl
      rw [labelArguments, none, others]
      rfl

/-- Tokens in front take no label argument away. -/
theorem labelArguments_subset_append (left right : List Token) :
    labelArguments right ⊆ labelArguments (left ++ right) := by
  induction left with
  | nil => exact List.Subset.refl _
  | cons token rest ih =>
      rw [List.cons_append, labelArguments]
      exact List.subset_append_of_subset_right _ ih

/-- A mark between two parts keeps their arguments apart. -/
theorem labelArguments_divide (left right : List Token) {character : Char}
    (other : character ≠ '=') :
    labelArguments (left ++ .mark character :: right) =
      labelArguments left ++ labelArguments right := by
  have parts : Parts (.mark character) := other
  rw [labelArguments_append left parts, labelArguments_mark]

theorem labelArguments_separated (parts : List (List Token)) :
    labelArguments ([.mark ','].intercalate parts) = parts.flatMap labelArguments :=
  read_separated labelArguments_nil (fun left right => labelArguments_divide left right (by decide))
    parts

end Lexer

namespace Expr

/-- The label arguments in the text of an expression. -/
def labelTexts (expression : Expr) : List String := labelArguments expression.tokens

@[simp] theorem labelTexts_name (identifier : String) : (name identifier).labelTexts = [] := rfl

@[simp] theorem labelTexts_natural (value : Nat) : (natural value).labelTexts = [] := rfl

@[simp] theorem labelTexts_truth (value : Bool) : (truth value).labelTexts = [] := rfl

@[simp] theorem labelTexts_quoted (value : String) : (quoted value).labelTexts = [] := rfl

@[simp] theorem labelTexts_number (value : Float) : (number value).labelTexts = [] := by
  obtain ⟨spelling, spelled, numerals, _⟩ := spellsNumber_number value
  have same : (number value).tokens = spelling := (spelled .plain).read
  have none : labelArguments spelling = [] :=
    labelArguments_of_no_literal fun _ member => numerals _ member
  exact (congrArg labelArguments same).trans none

theorem labelArguments_tokensEach (items : List Expr) :
    labelArguments ([.mark ','].intercalate (tokensEach items)) = items.flatMap labelTexts := by
  rw [labelArguments_separated, tokensEach_eq_map, List.flatMap_map]
  rfl

@[simp] theorem labelTexts_list (items : List Expr) :
    (list items).labelTexts = items.flatMap labelTexts := by
  refine (labelArguments_divide _ _ (by decide : ']' ≠ '=')).trans ?_
  rw [labelArguments_mark, labelArguments_tokensEach, labelArguments_nil, List.append_nil]

@[simp] theorem labelTexts_single (item : Expr) : (single item).labelTexts = item.labelTexts := by
  refine (labelArguments_divide _ _ (by decide : ',' ≠ '=')).trans ?_
  rw [labelArguments_mark]
  exact List.append_nil _

@[simp] theorem labelTexts_member (object : Expr) (field : String) :
    (member object field).labelTexts = object.labelTexts := by
  exact (labelArguments_divide _ _ (by decide : '.' ≠ '=')).trans (List.append_nil _)

@[simp] theorem labelTexts_index (object : Expr) (positions : List Expr) :
    (index object positions).labelTexts = object.labelTexts ++ positions.flatMap labelTexts := by
  refine (labelArguments_divide _ _ (by decide : ']' ≠ '=')).trans ?_
  rw [labelArguments_divide _ _ (by decide : '[' ≠ '='), labelArguments_tokensEach,
    labelArguments_nil, List.append_nil]
  rfl

@[simp] theorem labelTexts_call (function : Expr) (arguments : List Expr) :
    (call function arguments).labelTexts =
      function.labelTexts ++ arguments.flatMap labelTexts := by
  refine (labelArguments_divide _ _ (by decide : ')' ≠ '=')).trans ?_
  rw [labelArguments_divide _ _ (by decide : '(' ≠ '='), labelArguments_tokensEach,
    labelArguments_nil, List.append_nil]
  rfl

@[simp] theorem labelTexts_method (object : Expr) (field : String) (arguments : List Expr) :
    (method object field arguments).labelTexts =
      object.labelTexts ++ arguments.flatMap labelTexts := by
  rw [method, labelTexts_call, labelTexts_member]

theorem labelTexts_named {parameter : String} (other : parameter ≠ "label") (value : Expr) :
    (named parameter value).labelTexts = value.labelTexts := by
  exact (labelArguments_word parameter (.inl other)).trans (labelArguments_mark '=' value.tokens)

@[simp] theorem labelTexts_label (text : String) :
    (named "label" (quoted text)).labelTexts = [text] := rfl

@[simp] theorem labelTexts_sum (left right : Expr) :
    (sum left right).labelTexts = left.labelTexts ++ right.labelTexts := by
  exact labelArguments_divide _ _ (by decide : '+' ≠ '=')

@[simp] theorem labelTexts_difference (left right : Expr) :
    (difference left right).labelTexts = left.labelTexts ++ right.labelTexts := by
  exact labelArguments_divide _ _ (by decide : '-' ≠ '=')

@[simp] theorem labelTexts_collect (item : Expr) (element : String) (source : Expr) :
    (collect item element source).labelTexts = item.labelTexts ++ source.labelTexts := by
  have loop : labelArguments (.word "for" :: .word element :: .word "in" :: source.tokens) =
      source.labelTexts := by
    rw [labelArguments_word "for" (.inl (by decide)), labelArguments_word element (.inr (by simp)),
      labelArguments_word "in" (.inl (by decide))]
    rfl
  refine (labelArguments_divide _ _ (by decide : ']' ≠ '=')).trans ?_
  simp only [List.cons_append, List.append_assoc, List.nil_append, labelArguments_mark,
    labelArguments_nil, List.append_nil]
  have parts : Parts (.word "for") := trivial
  rw [labelArguments_append item.tokens parts, loop]
  rfl

@[simp] theorem labelTexts_numbers (values : List Float) : (numbers values).labelTexts = [] := by
  simp [numbers]

@[simp] theorem labelTexts_quotedList (values : List String) :
    (quotedList values).labelTexts = [] := by
  simp [quotedList]

@[simp] theorem labelTexts_numberRows (rows : List (List Float)) :
    (numberRows rows).labelTexts = [] := by
  simp [numberRows]

section

variable {word quote : String → Prop}

mutual

/-- Without the word there is no label argument. -/
theorem Uses.labelTexts_eq_nil (unlabelled : ¬ word "label") :
    (expression : Expr) → expression.Uses word quote → expression.labelTexts = []
  | .name identifier, _ => labelTexts_name identifier
  | .number value, _ => labelTexts_number value
  | .natural value, _ => labelTexts_natural value
  | .truth value, _ => labelTexts_truth value
  | .quoted value, _ => labelTexts_quoted value
  | .list items, uses => by
      rw [labelTexts_list]
      exact UsesEach.labelTexts_eq_nil unlabelled items uses
  | .single item, uses => by
      rw [labelTexts_single]
      exact Uses.labelTexts_eq_nil unlabelled item uses
  | .member object field, uses => by
      rw [labelTexts_member]
      exact Uses.labelTexts_eq_nil unlabelled object uses.1
  | .index object positions, uses => by
      rw [labelTexts_index, Uses.labelTexts_eq_nil unlabelled object uses.1,
        UsesEach.labelTexts_eq_nil unlabelled positions uses.2, List.append_nil]
  | .call function arguments, uses => by
      rw [labelTexts_call, Uses.labelTexts_eq_nil unlabelled function uses.1,
        UsesEach.labelTexts_eq_nil unlabelled arguments uses.2, List.append_nil]
  | .named parameter value, uses => by
      have other : parameter ≠ "label" := fun same => unlabelled (same ▸ uses.1)
      rw [labelTexts_named other]
      exact Uses.labelTexts_eq_nil unlabelled value uses.2
  | .sum left right, uses => by
      rw [labelTexts_sum, Uses.labelTexts_eq_nil unlabelled left uses.1,
        Uses.labelTexts_eq_nil unlabelled right uses.2, List.append_nil]
  | .difference left right, uses => by
      rw [labelTexts_difference, Uses.labelTexts_eq_nil unlabelled left uses.1,
        Uses.labelTexts_eq_nil unlabelled right uses.2, List.append_nil]
  | .collect item element source, uses => by
      rw [labelTexts_collect, Uses.labelTexts_eq_nil unlabelled item uses.1,
        Uses.labelTexts_eq_nil unlabelled source uses.2.2, List.append_nil]

theorem UsesEach.labelTexts_eq_nil (unlabelled : ¬ word "label") :
    (items : List Expr) → UsesEach word quote items → items.flatMap labelTexts = []
  | [], _ => rfl
  | item :: rest, uses => by
      rw [List.flatMap_cons, Uses.labelTexts_eq_nil unlabelled item uses.1,
        UsesEach.labelTexts_eq_nil unlabelled rest uses.2, List.append_nil]

end

end

/-- The text of a label argument. -/
def label? : Expr → Option String
  | .named parameter (.quoted text) => if parameter = "label" then some text else none
  | _ => none

theorem label?_eq_some_iff {item : Expr} {text : String} :
    item.label? = some text ↔ item = .named "label" (.quoted text) := by
  constructor
  · intro given
    unfold label? at given
    split at given
    · split at given
      · rename_i same
        rw [same, Option.some.inj given]
      · contradiction
    · contradiction
  · rintro rfl
    rfl

theorem labelTexts_subset_named (parameter : String) (value : Expr) :
    value.labelTexts ⊆ (named parameter value).labelTexts :=
  labelArguments_subset_append [.word parameter, .mark '='] value.tokens

end Expr

def Call.labels (call : Call) : List String := call.arguments.filterMap Expr.label?

namespace Expr

variable {call : Call}

theorem labels_subset_arguments {function : Expr} {arguments : List Expr} :
    Call.labels ⟨function, arguments⟩ ⊆ arguments.flatMap labelTexts := by
  intro text member
  obtain ⟨argument, inside, given⟩ := List.mem_filterMap.mp member
  refine List.mem_flatMap.mpr ⟨argument, inside, ?_⟩
  rw [label?_eq_some_iff.mp given]
  exact List.mem_singleton_self text

mutual

/-- Calls have no label arguments but those in the text of the expression. -/
theorem labels_subset : (expression : Expr) → call ∈ expression.calls →
    call.labels ⊆ expression.labelTexts
  | .name _, inside | .number _, inside | .natural _, inside | .truth _, inside
  | .quoted _, inside => absurd inside List.not_mem_nil
  | .list items, inside => by
      rw [labelTexts_list]
      exact labels_subset_each items inside
  | .single item, inside => by
      rw [labelTexts_single]
      exact labels_subset item inside
  | .member object _, inside => by
      rw [labelTexts_member]
      exact labels_subset object inside
  | .index object positions, inside => by
      rw [labelTexts_index]
      rcases List.mem_append.mp inside with inner | inner
      · exact List.subset_append_of_subset_left _ (labels_subset object inner)
      · exact List.subset_append_of_subset_right _ (labels_subset_each positions inner)
  | .call function arguments, inside => by
      rw [labelTexts_call]
      rcases List.mem_cons.mp inside with rfl | inside
      · exact List.subset_append_of_subset_right _ labels_subset_arguments
      · rcases List.mem_append.mp inside with inner | inner
        · exact List.subset_append_of_subset_left _ (labels_subset function inner)
        · exact List.subset_append_of_subset_right _ (labels_subset_each arguments inner)
  | .named parameter value, inside =>
    List.Subset.trans (labels_subset value inside) (labelTexts_subset_named parameter value)
  | .sum left right, inside => by
      rw [labelTexts_sum]
      rcases List.mem_append.mp inside with inner | inner
      · exact List.subset_append_of_subset_left _ (labels_subset left inner)
      · exact List.subset_append_of_subset_right _ (labels_subset right inner)
  | .difference left right, inside => by
      rw [labelTexts_difference]
      rcases List.mem_append.mp inside with inner | inner
      · exact List.subset_append_of_subset_left _ (labels_subset left inner)
      · exact List.subset_append_of_subset_right _ (labels_subset right inner)
  | .collect item _ source, inside => by
      rw [labelTexts_collect]
      rcases List.mem_append.mp inside with inner | inner
      · exact List.subset_append_of_subset_left _ (labels_subset item inner)
      · exact List.subset_append_of_subset_right _ (labels_subset source inner)

theorem labels_subset_each : (items : List Expr) → call ∈ callsEach items →
    call.labels ⊆ items.flatMap labelTexts
  | [], inside => absurd inside List.not_mem_nil
  | item :: rest, inside => by
      rw [List.flatMap_cons]
      rcases List.mem_append.mp inside with inner | inner
      · exact List.subset_append_of_subset_left _ (labels_subset item inner)
      · exact List.subset_append_of_subset_right _ (labels_subset_each rest inner)

end

end Expr

namespace Statement

/-- The label arguments in the line of a statement. -/
def labelTexts (statement : Statement) : List String := labelArguments statement.tokens

@[simp] theorem labelTexts_evaluate (value : Expr) :
    (evaluate value).labelTexts = value.labelTexts := rfl

@[simp] theorem labelTexts_extend (target : String) (value : Expr) :
    (extend target value).labelTexts = value.labelTexts := by
  rw [labelTexts, tokens, labelArguments_word target (.inr (by simp)), labelArguments_mark,
    labelArguments_mark]
  rfl

theorem labelTexts_assign {targets : List String} (other : "label" ∉ targets) (value : Expr) :
    (assign targets value).labelTexts = value.labelTexts := by
  rw [labelTexts, tokens]
  induction targets with
  | nil => rfl
  | cons target rest ih =>
      have first : target ≠ "label" := fun same => other (same ▸ List.mem_cons_self)
      have others := ih fun member => other (List.mem_cons_of_mem _ member)
      cases rest with
      | nil =>
          simp only [List.map_cons, List.map_nil, List.intercalate_singleton, List.singleton_append]
          rw [labelArguments_word target (.inl first), labelArguments_mark]
          rfl
      | cons second rest =>
          rw [List.map_cons, List.map_cons] at *
          rw [List.intercalate_cons_cons, List.append_assoc, List.append_assoc,
            List.singleton_append, List.singleton_append, labelArguments_word target (.inl first),
            labelArguments_mark]
          exact others

theorem labels_subset {statement : Statement} {call : Call} (inside : call ∈ statement.calls) :
    call.labels ⊆ statement.labelTexts := by
  induction statement with
  | assign targets value =>
      have assigned : (assign targets value).tokens =
          ([.mark ','].intercalate (targets.map fun target => [.word target]) ++ [.mark '=']) ++
            value.tokens := by
        rw [tokens, List.append_assoc, List.singleton_append]
      rw [labelTexts, assigned]
      exact List.Subset.trans (value.labels_subset inside) (labelArguments_subset_append _ _)
  | extend target value =>
      rw [labelTexts_extend]
      exact value.labels_subset inside
  | evaluate value => exact value.labels_subset inside
  | nested inner ih => exact ih inside
  | importModule | importAs | importFrom | importAll | attempt | rescue => contradiction

theorem Uses.labelTexts_eq_nil {word quote : String → Prop} (unlabelled : ¬ word "label")
    {statement : Statement} (uses : statement.Uses word quote) : statement.labelTexts = [] := by
  induction statement with
  | importModule | importAs | importFrom | importAll | attempt | rescue =>
      exact labelArguments_of_no_literal (by simp [tokens])
  | assign targets value =>
      have other : "label" ∉ targets := fun member => unlabelled (uses.1 _ member)
      rw [labelTexts_assign other]
      exact Expr.Uses.labelTexts_eq_nil unlabelled value uses.2
  | extend target value =>
      rw [labelTexts_extend]
      exact Expr.Uses.labelTexts_eq_nil unlabelled value uses.2
  | evaluate value => exact Expr.Uses.labelTexts_eq_nil unlabelled value uses
  | nested inner ih => exact ih uses

/-- The line of a legible statement has the label arguments of its tokens. -/
theorem labelArguments_text {quoting : Quoting} {statement : Statement}
    (legible : statement.Legible quoting) :
    labelArguments (Lexer.tokens quoting statement.text) = statement.labelTexts := by
  rw [tokens_text legible, labelTexts]

end Statement

/-! ## Whole scripts -/

namespace Script

variable {script : Script} {quoting : Quoting} {statements : List Statement}

/-- Every line is followed by a line break. -/
theorem toList_render (present : script.lines ≠ []) (visible : script.lines ≠ [""]) :
    script.render.toList = script.lines.flatMap fun line => line.toList ++ ['\n'] := by
  rw [render_of_present present visible, intercalate_append_empty, String.toList_join,
    List.flatMap_map]
  simp

/-- A script of legible statements is read as their tokens, with a mark for every line break. -/
theorem spells_lines (legible : ∀ statement ∈ statements, statement.Legible quoting) :
    Spells quoting (statements.flatMap fun statement => statement.text.toList ++ ['\n'])
      (statements.flatMap fun statement => statement.tokens ++ [.mark '\n']) := by
  induction statements with
  | nil => exact Spells.nil
  | cons statement rest ih =>
      have first := Statement.spells (legible statement (by simp))
      have others := ih fun other member => legible other (by simp [member])
      simpa [Spells.separator] using first.separate '\n' others

theorem labelArguments_lines (statements : List Statement) :
    labelArguments (statements.flatMap fun statement => statement.tokens ++ [.mark '\n']) =
      statements.flatMap Statement.labelTexts := by
  induction statements with
  | nil => rfl
  | cons statement rest ih =>
      rw [List.flatMap_cons, List.append_assoc, List.singleton_append,
        labelArguments_divide _ _ (by decide : '\n' ≠ '='), ih]
      rfl

/-- The label arguments of a script are those of its statements. -/
theorem labelArguments_render (legible : ∀ statement ∈ statements, statement.Legible quoting)
    (present : (ofStatements statements).lines ≠ [])
    (visible : (ofStatements statements).lines ≠ [""]) :
    labelArguments (Lexer.tokens quoting (ofStatements statements).render) =
      statements.flatMap Statement.labelTexts := by
  rw [Lexer.tokens, toList_render present visible, lines_ofStatements, List.flatMap_map,
    (spells_lines legible).read, labelArguments_lines]

end Script

end FigureScript
