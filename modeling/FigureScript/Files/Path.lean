import FigureScript.Files.OsError

/-!
# Paths

A path names a place by the directories that lead to it. A place is given by these names from the root
on; `components` cuts a path into the names that are followed one by one.
-/

namespace FigureScript

abbrev Location := List String

namespace Path

/-- The parts between slashes; `current` holds the part read so far, backwards. -/
def splitAtSlashes (current : List Char) : List Char → List String
  | [] => [String.ofList current.reverse]
  | character :: rest =>
    if character = '/' then String.ofList current.reverse :: splitAtSlashes [] rest
    else splitAtSlashes (character :: current) rest

/-- The names in a path. Slashes next to each other enclose no name. -/
def components (path : String) : List String :=
  (splitAtSlashes [] path.toList).filter fun name => !name.isEmpty

def isAbsolute (path : String) : Bool := path.toList.head? == some '/'

/-- A slash at the end asks for a directory. -/
def endsInSlash (path : String) : Bool := path.toList.getLast? == some '/'

def hasSlash (path : String) : Bool := path.toList.contains '/'

/-- True for a text with the character that ends every name. -/
def hasNul (path : String) : Bool := path.toList.contains '\x00'

/-- The bytes that a name may have. -/
def nameLimit : Nat := 255

/-- Paths are shorter than this. -/
def pathLimit : Nat := 4096

end Path

end FigureScript
