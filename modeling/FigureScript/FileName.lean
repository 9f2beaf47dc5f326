/-!
# File names

Names of scripts and saved figures. An empty name stands for a default, the extension is added when
it is missing, and colons give way to hyphens so that a name made from a time of day is a valid path.
-/

namespace FigureScript.FileName

def scriptStem : String := "script"

def figureStem : String := "plot"

def scriptExtension : String := ".py"

/-- Figures are always saved in this format. -/
def figureExtension : String := ".pdf"

def endsWith (name ending : String) : Bool := ending.toList.isSuffixOf name.toList

/-- Turn every colon into a hyphen. -/
def withoutColons (name : String) : String :=
  String.ofList (name.toList.map fun character => if character = ':' then '-' else character)

/-- The file name for `name`. The extension is looked for before colons are replaced. -/
def sanitize (name stem extension : String) : String :=
  withoutColons <|
    if name.isEmpty then stem ++ extension
    else if endsWith name extension then name
    else name ++ extension

def script (name : Option String) : String :=
  sanitize (name.getD "") scriptStem scriptExtension

def figure (name : Option String) : String :=
  sanitize (name.getD "") figureStem figureExtension

end FigureScript.FileName
