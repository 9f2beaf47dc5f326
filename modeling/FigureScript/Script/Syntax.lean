import FigureScript.Script.Literal

/-!
# Expressions and statements of the script

The part of Python that the generated scripts use. A script is built from these values and turned
into text only at the end, so which names a statement binds and what a call is given can be read off
without parsing.
-/

namespace FigureScript

inductive Expr where
  | name (identifier : String)
  | number (value : Float)
  | natural (value : Nat)
  | truth (value : Bool)
  /-- A text literal. -/
  | quoted (value : String)
  | list (items : List Expr)
  /-- A tuple of one item. -/
  | single (item : Expr)
  | member (object : Expr) (field : String)
  | index (object : Expr) (positions : List Expr)
  | call (function : Expr) (arguments : List Expr)
  /-- An argument given by name; it stands only among the arguments of a call. -/
  | named (parameter : String) (value : Expr)
  | sum (left right : Expr)
  | difference (left right : Expr)
  /-- The list of `item` for every value that `element` takes in `source`. -/
  | collect (item : Expr) (element : String) (source : Expr)

namespace Expr

mutual

def text : Expr → String
  | .name identifier => identifier
  | .number value => Literal.number value
  | .natural value => toString value
  | .truth value => Literal.truth value
  | .quoted value => Literal.text value
  | .list items => Literal.bracketed (texts items)
  | .single item => "(" ++ text item ++ ",)"
  | .member object field => text object ++ "." ++ field
  | .index object positions => text object ++ Literal.bracketed (texts positions)
  | .call function arguments =>
    text function ++ "(" ++ Literal.separated (texts arguments) ++ ")"
  | .named parameter value => parameter ++ "=" ++ text value
  | .sum left right => text left ++ "+" ++ text right
  | .difference left right => text left ++ "-" ++ text right
  | .collect item element source =>
    "[" ++ text item ++ " for " ++ element ++ " in " ++ text source ++ "]"

def texts : List Expr → List String
  | [] => []
  | item :: rest => text item :: texts rest

end

theorem texts_eq_map (items : List Expr) : texts items = items.map text := by
  induction items with
  | nil => rfl
  | cons item rest ih => simp [texts, ih]

def method (object : Expr) (field : String) (arguments : List Expr) : Expr :=
  call (member object field) arguments

def numbers (values : List Float) : Expr := list (values.map number)

def quotedList (values : List String) : Expr := list (values.map quoted)

def numberRows (rows : List (List Float)) : Expr := list (rows.map numbers)

theorem text_numbers (values : List Float) : (numbers values).text = Literal.numberList values := by
  simp [numbers, text, texts_eq_map, Literal.numberList, Function.comp_def]

theorem text_quotedList (values : List String) :
    (quotedList values).text = Literal.textList values := by
  simp [quotedList, text, texts_eq_map, Literal.textList, Function.comp_def]

theorem text_numberRows (rows : List (List Float)) :
    (numberRows rows).text = Literal.numberRows rows := by
  simp [numberRows, text, texts_eq_map, Literal.numberRows, Function.comp_def, text_numbers]

end Expr

inductive Statement where
  | importModule (module : String)
  | importAs (module name : String)
  | importFrom (module item : String)
  | importAll (module : String)
  /-- Opens a block whose failure the matching `rescue` handles. -/
  | attempt
  | rescue (failure name : String)
  | assign (targets : List String) (value : Expr)
  /-- Appends the items of `value` to a list. -/
  | extend (target : String) (value : Expr)
  | evaluate (value : Expr)
  /-- A statement inside the block opened before it. -/
  | nested (inner : Statement)

namespace Statement

def text : Statement → String
  | .importModule module => "import " ++ module
  | .importAs module name => "import " ++ module ++ " as " ++ name
  | .importFrom module item => "from " ++ module ++ " import " ++ item
  | .importAll module => "from " ++ module ++ " import *"
  | .attempt => "try:"
  | .rescue failure name => "except " ++ failure ++ " as " ++ name ++ ":"
  | .assign targets value => Literal.separated targets ++ " = " ++ value.text
  | .extend target value => target ++ " += " ++ value.text
  | .evaluate value => value.text
  | .nested inner => "    " ++ inner.text

end Statement

end FigureScript
