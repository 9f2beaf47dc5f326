import FigureScript.Script.Buffer
import FigureScript.Proofs.Script.Names

namespace FigureScript

open Lexer

/-! # Statements in scope

The names in scope grow with every statement that binds one. Main statement: a script that is in
scope from its first statement on binds every generated name before it reads it.
-/

namespace Lexer

/-- The words that decide what kind of statement a line is. -/
def keywords : List String := ["import", "from", "except"]

theorem mem_keywords {word : String} :
    word ∈ keywords ↔ word = "import" ∨ word = "from" ∨ word = "except" := by
  simp [keywords]

theorem effect_of_no_keyword {first : String} {rest : List Token} (plain : first ∉ keywords) :
    effect (.word first :: rest) =
      match assignment? (.word first :: rest) with
      | some (targets, value) => ⟨targets, words value⟩
      | none => ⟨[], first :: words rest⟩ := by
  rw [mem_keywords, not_or, not_or] at plain
  unfold effect
  rw [words_word]
  split
  · rename_i same
    exact absurd (List.cons.inj same).1 plain.1
  · rename_i same
    exact absurd (List.cons.inj same).1 plain.2.1
  · rename_i same
    exact absurd (List.cons.inj same).1 plain.2.2
  · rfl

theorem assignment?_targets (first : String) (others : List String) (value : List Token) :
    assignment? ([.mark ','].intercalate ((first :: others).map fun target => [.word target]) ++
      .mark '=' :: value) = some (first :: others, value) := by
  induction others generalizing first with
  | nil => simp [assignment?]
  | cons second rest ih =>
      have later := ih second
      rw [List.map_cons] at later
      rw [List.map_cons, List.map_cons, List.intercalate_cons_cons]
      simp only [List.cons_append, List.nil_append, assignment?, later]
      rfl

/-- A line that starts like a call or a selection binds nothing. -/
theorem effect_of_mark {first : String} {mark : Char} {rest : List Token} (plain : first ∉ keywords)
    (other : mark ≠ '=') (single : mark ≠ ',') :
    effect (.word first :: .mark mark :: rest) = ⟨[], first :: words rest⟩ := by
  have unassigned : assignment? (.word first :: .mark mark :: rest) = none := by
    simp only [assignment?, if_neg other, if_neg single]
  rw [effect_of_no_keyword plain, unassigned, words_mark]

theorem words_of_assignment? {tokens value : List Token} {targets : List String}
    (assigned : assignment? tokens = some (targets, value)) {word : String}
    (member : word ∈ words value) : word ∈ words tokens := by
  fun_induction assignment? tokens generalizing targets with
  | case1 target rest =>
      cases assigned
      exact List.mem_cons_of_mem _ member
  | case2 target rest _ ih =>
      obtain ⟨⟨others, same⟩, found, split⟩ := Option.map_eq_some_iff.mp assigned
      cases split
      exact List.mem_cons_of_mem _ (ih found)
  | case3 => contradiction
  | case4 => contradiction

theorem reads_subset_words {tokens : List Token} {word : String}
    (member : word ∈ (effect tokens).reads) : word ∈ words tokens := by
  unfold effect at member
  split at member
  · contradiction
  · contradiction
  · rename_i rest same
    exact same ▸ List.mem_cons_of_mem _ (List.mem_of_mem_take member)
  · split at member
    · rename_i targets value assigned
      exact words_of_assignment? assigned member
    · exact member

end Lexer

namespace Statement

def binds (statement : Statement) : List String := (effect statement.tokens).binds

def reads (statement : Statement) : List String := (effect statement.tokens).reads

theorem binds_text {statement : Statement} (legible : statement.Legible .plain) :
    Line.binds statement.text = statement.binds := by
  rw [Line.binds, tokens_text legible, binds]

theorem reads_text {statement : Statement} (legible : statement.Legible .plain) :
    Line.reads statement.text = statement.reads := by
  rw [Line.reads, tokens_text legible, reads]

theorem effect_assign {target : String} {value : Expr} (others : List String)
    (plain : target ∉ keywords) :
    effect (assign (target :: others) value).tokens = ⟨target :: others, words value.tokens⟩ := by
  have targets := assignment?_targets target others value.tokens
  obtain ⟨rest, split⟩ : ∃ rest,
      (assign (target :: others) value).tokens = .word target :: rest := by
    cases others with
    | nil => exact ⟨_, rfl⟩
    | cons second rest => exact ⟨_, rfl⟩
  have assigned : assignment? (.word target :: rest) = some (target :: others, value.tokens) := by
    rw [← split]
    exact targets
  rw [split, effect_of_no_keyword plain, assigned]

theorem effect_extend {target : String} {value : Expr} (plain : target ∉ keywords) :
    effect (extend target value).tokens = ⟨[], target :: words value.tokens⟩ :=
  effect_of_mark plain (by decide) (by decide)

theorem effect_method {root field : String} {items : List Expr} (plain : root ∉ keywords) :
    effect (evaluate (.method (.name root) field items)).tokens =
      ⟨[], words (Expr.method (.name root) field items).tokens⟩ :=
  effect_of_mark plain (by decide) (by decide)

theorem effect_call {root : String} {items : List Expr} (plain : root ∉ keywords) :
    effect (evaluate (.call (.name root) items)).tokens =
      ⟨[], words (Expr.call (.name root) items).tokens⟩ :=
  effect_of_mark plain (by decide) (by decide)

/-- A generated name that is read in a statement is part of its vocabulary. -/
theorem Uses.words {word quote : String → Prop} {statement : Statement} {target : String}
    (uses : statement.Uses word quote) (read : target ∈ Lexer.words statement.tokens)
    (generated : target ∈ generatedNames) : word target := by
  have apart : ∀ keyword ∈ ["import", "as", "from", "try", "except"],
      keyword ∉ generatedNames := by decide
  have keyword : ∀ {name : String}, name ∈ ["import", "as", "from", "try", "except"] →
      target = name → word target := fun known same => absurd (same ▸ generated) (apart _ known)
  induction statement with
  | importModule module =>
      rcases List.mem_cons.mp read with first | read
      · exact keyword (by simp) first
      · exact List.mem_singleton.mp read ▸ uses
  | importAll module =>
      simp only [tokens, words_word, words_mark, words_nil, List.mem_cons, List.not_mem_nil,
        or_false] at read
      rcases read with first | rfl | last
      · exact keyword (by simp) first
      · exact uses
      · exact keyword (by simp) last
  | importAs module name =>
      simp only [tokens, words_word, words_nil, List.mem_cons, List.not_mem_nil, or_false] at read
      rcases read with first | rfl | middle | rfl
      · exact keyword (by simp) first
      · exact uses.1
      · exact keyword (by simp) middle
      · exact uses.2
  | importFrom module item =>
      simp only [tokens, words_word, words_nil, List.mem_cons, List.not_mem_nil, or_false] at read
      rcases read with first | rfl | middle | rfl
      · exact keyword (by simp) first
      · exact uses.1
      · exact keyword (by simp) middle
      · exact uses.2
  | attempt => exact keyword (by simp) (List.mem_singleton.mp read)
  | rescue failure name =>
      simp only [tokens, words_word, words_mark, words_nil, List.mem_cons, List.not_mem_nil,
        or_false] at read
      rcases read with first | rfl | middle | rfl
      · exact keyword (by simp) first
      · exact uses.1
      · exact keyword (by simp) middle
      · exact uses.2
  | assign targets value =>
      simp only [tokens, words_append, words_mark, words_separated, List.mem_append,
        List.flatMap_map, words_word, words_nil] at read
      rcases read with bound | inner
      · exact uses.1 target (by simpa using bound)
      · exact Expr.Uses.words value uses.2 inner generated
  | extend name value =>
      rcases List.mem_cons.mp read with rfl | inner
      · exact uses.1
      · exact Expr.Uses.words value uses.2 inner generated
  | evaluate value => exact Expr.Uses.words value uses read generated
  | nested inner ih => exact ih uses read

/-- Every generated name that a statement reads is one of `bound`. -/
def ReadsOnly (bound : List String) (statement : Statement) : Prop :=
  ∀ word ∈ statement.reads, word ∈ generatedNames → word ∈ bound

section

variable {target root field : String} {value : Expr} {others : List String} {items : List Expr}

@[simp] theorem binds_assign (plain : target ∉ keywords) :
    (assign (target :: others) value).binds = target :: others := by
  rw [binds, effect_assign others plain]

@[simp] theorem binds_extend (plain : target ∉ keywords) : (extend target value).binds = [] := by
  rw [binds, effect_extend plain]

@[simp] theorem binds_method (plain : root ∉ keywords) :
    (evaluate (.method (.name root) field items)).binds = [] := by
  rw [binds, effect_method plain]

@[simp] theorem binds_call (plain : root ∉ keywords) :
    (evaluate (.call (.name root) items)).binds = [] := by
  rw [binds, effect_call plain]

variable {bound : List String}

theorem readsOnly_of_uses {statement : Statement}
    (uses : statement.Uses (Known bound) fun _ => True) : statement.ReadsOnly bound :=
  fun _ read generated => uses.words (reads_subset_words read) generated generated

/-- The targets of an assignment are not read. -/
theorem readsOnly_assign (plain : target ∉ keywords)
    (uses : value.Uses (Known bound) fun _ => True) :
    (assign (target :: others) value).ReadsOnly bound := by
  intro name read generated
  rw [reads, effect_assign others plain] at read
  exact Expr.Uses.words value uses read generated generated

end

end Statement

/-- Every generated name that a statement reads is in scope there, where `bound` are the names in
scope before the first statement. -/
def Scoped (bound : List String) : List Statement → Prop
  | [] => True
  | statement :: rest => statement.ReadsOnly bound ∧ Scoped (statement.binds ++ bound) rest

instance (bound : List String) (statement : Statement) : Decidable (statement.ReadsOnly bound) :=
  inferInstanceAs (Decidable (∀ word ∈ statement.reads, word ∈ generatedNames → word ∈ bound))

instance decidableScoped : (bound : List String) → (statements : List Statement) →
    Decidable (Scoped bound statements)
  | _, [] => .isTrue trivial
  | bound, statement :: rest =>
    have : Decidable (Scoped (statement.binds ++ bound) rest) := decidableScoped _ rest
    inferInstanceAs (Decidable (statement.ReadsOnly bound ∧ _))

namespace Scoped

variable {bound larger : List String} {statements left right : List Statement}

@[simp] theorem nil : Scoped bound [] := trivial

@[simp] theorem cons_iff {statement : Statement} :
    Scoped bound (statement :: statements) ↔
      statement.ReadsOnly bound ∧ Scoped (statement.binds ++ bound) statements := Iff.rfl

theorem mono (inScope : Scoped bound statements) (more : bound ⊆ larger) :
    Scoped larger statements := by
  induction statements generalizing bound larger with
  | nil => exact nil
  | cons statement rest ih =>
      obtain ⟨reads, later⟩ := inScope
      refine ⟨fun word member generated => more (reads word member generated), ih later ?_⟩
      exact List.append_subset.mpr
        ⟨List.subset_append_left _ _, fun name old => List.mem_append_right _ (more old)⟩

/-- A statement that uses known names only. -/
theorem use {statement : Statement} (rest : Scoped bound statements)
    (uses : statement.Uses (Known bound) fun _ => True) : Scoped bound (statement :: statements) :=
  ⟨Statement.readsOnly_of_uses uses, rest.mono (List.subset_append_right _ _)⟩

/-- An assignment, whose targets are known from here on. -/
theorem assign {target : String} {others : List String} {value : Expr}
    (rest : Scoped (target :: others ++ bound) statements)
    (uses : value.Uses (Known bound) fun _ => True) (plain : target ∉ keywords) :
    Scoped bound (.assign (target :: others) value :: statements) := by
  refine ⟨Statement.readsOnly_assign plain uses, ?_⟩
  rwa [Statement.binds_assign plain]

/-- A statement that reads nothing, such as an import. -/
theorem bind {statement : Statement} (rest : Scoped (statement.binds ++ bound) statements)
    (unread : statement.reads = []) : Scoped bound (statement :: statements) :=
  ⟨fun _ read => absurd (unread ▸ read) List.not_mem_nil, rest⟩

/-- The names that a first part binds are in scope behind it. -/
theorem append (first : Scoped bound left)
    (second : Scoped (left.flatMap Statement.binds ++ bound) right) :
    Scoped bound (left ++ right) := by
  induction left generalizing bound with
  | nil => exact second
  | cons statement rest ih =>
      obtain ⟨reads, later⟩ := first
      refine ⟨reads, ih later (second.mono fun name member => ?_)⟩
      simp only [List.flatMap_cons, List.mem_append] at member ⊢
      rcases member with (own | others) | old
      · exact .inr (.inl own)
      · exact .inl others
      · exact .inr (.inr old)

/-- Parts that need nothing of each other. -/
theorem join (first : Scoped bound left) (second : Scoped bound right) :
    Scoped bound (left ++ right) :=
  first.append (second.mono (List.subset_append_right _ _))

theorem flatMap {α : Type} {part : α → List Statement} {items : List α}
    (each : ∀ item ∈ items, Scoped bound (part item)) : Scoped bound (items.flatMap part) := by
  induction items with
  | nil => exact nil
  | cons item rest ih =>
      have others := ih fun other member => each other (by simp [member])
      exact (each item (by simp)).join others

theorem of_uses (uses : ∀ statement ∈ statements, statement.Uses (Known bound) fun _ => True) :
    Scoped bound statements := by
  induction statements with
  | nil => exact nil
  | cons statement rest ih =>
      have others := ih fun other member => uses other (by simp [member])
      exact ⟨Statement.readsOnly_of_uses (uses statement (by simp)),
        others.mono (List.subset_append_right _ _)⟩

/-- What is read was in scope from the start or has been bound since. -/
theorem bound_or_binds {before after : List Statement} {statement : Statement} {name : String}
    (inScope : Scoped bound (before ++ statement :: after)) (generated : name ∈ generatedNames)
    (read : name ∈ statement.reads) :
    name ∈ bound ∨ ∃ earlier ∈ before, name ∈ earlier.binds := by
  induction before generalizing bound with
  | nil => exact .inl (inScope.1 name read generated)
  | cons first rest ih =>
      rcases ih inScope.2 with old | ⟨earlier, member, binds⟩
      · rcases List.mem_append.mp old with own | old
        · exact .inr ⟨first, by simp, own⟩
        · exact .inl old
      · exact .inr ⟨earlier, by simp [member], binds⟩

/-- The written lines bind what they read, apart from the names in scope before them. -/
theorem boundBeforeRead {names : List String} (inScope : Scoped bound statements)
    (legible : ∀ statement ∈ statements, statement.Legible .plain)
    (generated : ∀ name ∈ names, name ∈ generatedNames ∧ name ∉ bound) :
    BoundBeforeRead names (Script.ofStatements statements).lines := by
  rw [Script.lines_ofStatements]
  intro before line after split name named read
  obtain ⟨first, others, rfl, rfl, behind⟩ := List.map_eq_append_iff.mp split
  obtain ⟨statement, rest, rfl, rfl, rfl⟩ := List.map_eq_cons_iff.mp behind
  rw [Statement.reads_text (legible statement (by simp))] at read
  rcases inScope.bound_or_binds (generated name named).1 read with old | ⟨earlier, member, binds⟩
  · exact absurd old (generated name named).2
  · refine ⟨earlier.text, List.mem_map_of_mem member, ?_⟩
    rwa [Statement.binds_text (legible earlier (by simp [member]))]

end Scoped

/-- Statements may stand wherever those of their names that are generated are in scope. -/
theorem Confined.inScope {names bound : List String} {quote : String → Prop}
    {statements : List Statement} (confined : Confined names quote statements)
    (handles : List String) (known : handles ⊆ bound)
    (generated : ∀ name ∈ names, name ∈ generatedNames → name ∈ handles) :
    Scoped bound statements :=
  .of_uses fun statement member => (confined statement member).mono
    (fun name word own => known (generated name word own)) fun _ _ => trivial

end FigureScript
