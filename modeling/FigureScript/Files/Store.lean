import FigureScript.Files.Node
import FigureScript.Files.Path

/-!
# A store of files

Directories, files and programs by their places. Paths are followed from the root or from a working
directory, and every name on the way has to be a directory.
-/

namespace FigureScript

structure FileStore where
  nodes : List (Location × Node)
  deriving DecidableEq, Repr

/-- A place that a path leads to, and whether the path asks for a directory there. -/
structure Spot where
  location : Location
  asDirectory : Bool
  deriving DecidableEq, Repr

namespace FileStore

/-- What stands at a place. The root is always there. -/
def find? (store : FileStore) (location : Location) : Option Node :=
  if location = [] then some .directory else store.nodes.lookup location

def put (store : FileStore) (location : Location) (node : Node) : FileStore :=
  ⟨go store.nodes⟩
where
  go : List (Location × Node) → List (Location × Node)
    | [] => [(location, node)]
    | (place, present) :: rest =>
      if place = location then (location, node) :: rest else (place, present) :: go rest

/-- A place together with the directories that lead to it. -/
def putWithParents (store : FileStore) (location : Location) (node : Node) : FileStore :=
  let parents := (List.range location.length).map location.take
  (parents.foldl (fun files place => files.put place .directory) store).put location node

def follow (store : FileStore) : (start : Location) → List String → Except OsError Location
  | place, [] => .ok place
  | place, name :: rest =>
    if name = "." then store.follow place rest
    else if name = ".." then store.follow place.dropLast rest
    else if Path.nameLimit < name.utf8ByteSize then .error .nameTooLong
    else
      match store.find? (place ++ [name]) with
      | some .directory => store.follow (place ++ [name]) rest
      | some _ => .error .notDirectory
      | none => .error .notFound

/-- The place a path leads to; nothing needs to stand there, and its own name may have any length. -/
def locate (store : FileStore) (directory : Location) (path : String) : Except OsError Spot := do
  if Path.hasNul path then throw .nameEnds
  if path.isEmpty then throw .notFound
  if Path.pathLimit ≤ path.utf8ByteSize then throw .nameTooLong
  let start := if Path.isAbsolute path then [] else directory
  let names := Path.components path
  let parent ← store.follow start names.dropLast
  match names.getLast? with
  | none => return ⟨parent, true⟩
  | some "." => return ⟨parent, true⟩
  | some ".." => return ⟨parent.dropLast, true⟩
  | some name => return ⟨parent ++ [name], Path.endsInSlash path⟩

/-- What stands at a spot. Places whose names are too long cannot even be asked about. -/
def look (store : FileStore) (spot : Spot) : Except OsError (Option Node) :=
  if Path.nameLimit < (spot.location.getLastD "").utf8ByteSize then .error .nameTooLong
  else .ok (store.find? spot.location)

def openNode (store : FileStore) (directory : Location) (path : String) :
    Except OsError (Location × Node) := do
  let spot ← store.locate directory path
  match ← store.look spot, spot.asDirectory with
  | none, _ => throw .notFound
  | some .directory, _ => return (spot.location, .directory)
  | some _, true => throw .notDirectory
  | some node, false => return (spot.location, node)

def openToRead (store : FileStore) (directory : Location) (path : String) : Except OsError Node := do
  match ← store.openNode directory path with
  | (_, .device .terminal) => throw .noDevice
  | (_, node) => return node

def read (store : FileStore) (directory : Location) (path : String) :
    Except OsError (List UInt8) := do
  (← store.openToRead directory path).content

def writable (store : FileStore) (directory : Location) (path : String) :
    Except OsError Location := do
  let spot ← store.locate directory path
  if spot.asDirectory then throw .isDirectory
  match ← store.look spot with
  | some .directory => throw .isDirectory
  | some (.program _) => throw .permissionDenied
  | some (.device .terminal) => throw .noDevice
  | _ => return spot.location

/-- The store with new content at a place; a file that was executable stays so, and devices keep
nothing. -/
def overwrite (store : FileStore) (location : Location) (content : List UInt8) : FileStore :=
  match store.find? location with
  | some (.device _) => store
  | some (.file _ executable) => store.put location (.file content executable)
  | _ => store.put location (.file content false)

def markExecutable (store : FileStore) (location : Location) : FileStore :=
  match store.find? location with
  | some (.file content _) => store.put location (.file content true)
  | _ => store

/-- Write bytes into a file from a certain byte on. A shorter file is first filled up with zeros. -/
def writeAt (store : FileStore) (location : Location) (offset : Nat) (bytes : List UInt8) :
    FileStore :=
  match store.find? location with
  | some (.file present executable) =>
    let before := present.take offset
    let filled := before ++ List.replicate (offset - before.length) 0
    store.put location
      (.file (filled ++ bytes ++ present.drop (offset + bytes.length)) executable)
  | _ => store

def enter (store : FileStore) (directory : Location) (path : String) :
    Except OsError Location := do
  match ← store.openNode directory path with
  | (location, .directory) => return location
  | _ => throw .notDirectory

/-! ## What stands where after a change -/

theorem lookup_go_self (location : Location) (node : Node) (nodes : List (Location × Node)) :
    (put.go location node nodes).lookup location = some node := by
  induction nodes with
  | nil => simp [put.go]
  | cons entry rest ih =>
      obtain ⟨place, present⟩ := entry
      by_cases same : place = location
      · simp [put.go, same]
      · have different : (location == place) = false := by simpa using Ne.symm same
        simp [put.go, same, List.lookup_cons, different, ih]

theorem lookup_go_of_ne {location other : Location} (distinct : other ≠ location) (node : Node)
    (nodes : List (Location × Node)) :
    (put.go location node nodes).lookup other = nodes.lookup other := by
  have absent : (other == location) = false := by simpa using distinct
  induction nodes with
  | nil => simp [put.go, List.lookup_cons, absent]
  | cons entry rest ih =>
      obtain ⟨place, present⟩ := entry
      by_cases same : place = location
      · subst same
        simp [put.go, List.lookup_cons, absent]
      · simp [put.go, same, List.lookup_cons, ih]

/-- The root stays a directory whatever is put there. -/
theorem find?_put_self {location : Location} (below : location ≠ []) (store : FileStore)
    (node : Node) : (store.put location node).find? location = some node := by
  simp [find?, below, put, lookup_go_self]

theorem find?_put_of_ne {location other : Location} (distinct : other ≠ location)
    (store : FileStore) (node : Node) :
    (store.put location node).find? other = store.find? other := by
  by_cases root : other = []
  · simp [find?, root]
  · simp [find?, root, put, lookup_go_of_ne distinct]

theorem find?_overwrite_of_ne {location other : Location} (distinct : other ≠ location)
    (store : FileStore) (content : List UInt8) :
    (store.overwrite location content).find? other = store.find? other := by
  unfold overwrite
  split
  · rfl
  · exact find?_put_of_ne distinct store _
  · exact find?_put_of_ne distinct store _

theorem find?_markExecutable_of_ne {location other : Location} (distinct : other ≠ location)
    (store : FileStore) : (store.markExecutable location).find? other = store.find? other := by
  unfold markExecutable
  split
  · exact find?_put_of_ne distinct store _
  · rfl

theorem find?_writeAt_of_ne {location other : Location} (distinct : other ≠ location)
    (store : FileStore) (offset : Nat) (bytes : List UInt8) :
    (store.writeAt location offset bytes).find? other = store.find? other := by
  unfold writeAt
  split
  · exact find?_put_of_ne distinct store _
  · rfl

end FileStore

end FigureScript
