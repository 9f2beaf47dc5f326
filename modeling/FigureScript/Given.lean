/-!
# Empty means unset

Optional lists and texts count as given only when there is something in them.
-/

namespace FigureScript.Given

/-- The list, if it is set and has an item. -/
def list {α : Type} (values : Option (List α)) : Option (List α) :=
  values.filter fun items => !items.isEmpty

/-- The text, if it is set and has a character. -/
def text (value : Option String) : Option String :=
  value.filter fun characters => !characters.isEmpty

end FigureScript.Given
