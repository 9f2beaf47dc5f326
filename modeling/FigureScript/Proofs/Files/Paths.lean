import FigureScript.Files.Store
import FigureScript.Proofs.Fallible

namespace FigureScript.FileStore

/-! # Where paths lead

A relative path leads to different places from different directories. What decides is the last
directory that it goes through, and writing a file changes no directory.
-/

variable {store other third : FileStore} {directory here there location : Location} {path : String}
  {names : List String} {content : List UInt8} {node : Node}

/-! ## The same directories -/

def SameDirectories (store other : FileStore) : Prop :=
  ∀ place, store.find? place = some .directory ↔ other.find? place = some .directory

theorem SameDirectories.refl (store : FileStore) : store.SameDirectories store := fun _ => Iff.rfl

theorem SameDirectories.symm (same : store.SameDirectories other) : other.SameDirectories store :=
  fun place => (same place).symm

theorem SameDirectories.trans (first : store.SameDirectories other)
    (second : other.SameDirectories third) : store.SameDirectories third :=
  fun place => (first place).trans (second place)

theorem follow_cons (start : Location) (name : String) (rest : List String) :
    store.follow start (name :: rest) =
      if name = "." then store.follow start rest
      else if name = ".." then store.follow start.dropLast rest
      else if Path.nameLimit < name.utf8ByteSize then .error .nameTooLong
      else
        match store.find? (start ++ [name]) with
        | some .directory => store.follow (start ++ [name]) rest
        | some _ => .error .notDirectory
        | none => .error .notFound := rfl

/-- What is followed to its end goes through directories only. -/
theorem follow_of_sameDirectories {start place : Location} (same : store.SameDirectories other)
    (followed : store.follow start names = .ok place) : other.follow start names = .ok place := by
  induction names generalizing start with
  | nil => exact followed
  | cons name rest ih =>
      rw [follow_cons] at followed ⊢
      by_cases stays : name = "."
      · rw [if_pos stays] at followed ⊢
        exact ih followed
      · rw [if_neg stays] at followed ⊢
        by_cases leaves : name = ".."
        · rw [if_pos leaves] at followed ⊢
          exact ih followed
        · rw [if_neg leaves] at followed ⊢
          by_cases long : Path.nameLimit < name.utf8ByteSize
          · rw [if_pos long] at followed
            contradiction
          · rw [if_neg long] at followed ⊢
            split at followed
            · rename_i entered
              rw [(same _).mp entered]
              exact ih followed
            · contradiction
            · contradiction

/-! ## Parents -/

/-- The directory that holds what a path leads to. -/
def parentOf (store : FileStore) (directory : Location) (path : String) : Except OsError Location :=
  store.follow (if Path.isAbsolute path then [] else directory) (Path.components path).dropLast

/-- The path leads to a place, and does not ask for a directory there. -/
def Leads (store : FileStore) (directory : Location) (path : String) (location : Location) : Prop :=
  store.locate directory path = .ok ⟨location, false⟩

instance : Decidable (store.Leads directory path location) :=
  match located : store.locate directory path with
  | .ok spot => decidable_of_iff (spot = ⟨location, false⟩) (by simp [Leads, located])
  | .error _ => .isFalse (by simp [Leads, located])

theorem leads_iff :
    store.Leads directory path location ↔
      (Path.hasNul path = false ∧ path.isEmpty = false ∧ path.utf8ByteSize < Path.pathLimit) ∧
      Path.endsInSlash path = false ∧
      ∃ parent, store.parentOf directory path = .ok parent ∧
        ∃ name, (Path.components path).getLast? = some name ∧ name ≠ "." ∧ name ≠ ".." ∧
          parent ++ [name] = location := by
  simp only [Leads, locate, parentOf, Fallible.guard_eq_ok_iff, Fallible.bind_eq_ok_iff,
    Bool.not_eq_true, Nat.not_le]
  constructor
  · rintro ⟨nul, empty, short, parent, followed, found⟩
    refine ⟨⟨nul, empty, short⟩, ?_⟩
    split at found
    · cases found
    · cases found
    · cases found
    · rename_i name other above last
      obtain ⟨rfl, plain⟩ := Spot.mk.inj (Except.ok.inj found)
      exact ⟨plain, parent, followed, name, last, fun same => other (same ▸ rfl),
        fun same => above (same ▸ rfl), rfl⟩
  · rintro ⟨⟨nul, empty, short⟩, plain, parent, followed, name, last, inside, below, rfl⟩
    refine ⟨nul, empty, short, parent, followed, ?_⟩
    rw [last]
    split
    · contradiction
    · rename_i same
      exact absurd (Option.some.inj same) inside
    · rename_i same
      exact absurd (Option.some.inj same) below
    · rename_i same
      cases same
      rw [plain]
      rfl

/-- From another directory a path leads to the same place exactly when its parent is the same. -/
theorem Leads.leads_iff_parentOf_eq (found : store.Leads here path location) :
    store.Leads there path location ↔ store.parentOf there path = store.parentOf here path := by
  obtain ⟨acceptable, plain, parent, first, name, last, inside, below, rfl⟩ := leads_iff.mp found
  rw [leads_iff, first]
  constructor
  · rintro ⟨_, _, other, second, found, read, _, _, same⟩
    rw [second, (List.append_inj' same rfl).1]
  · intro second
    exact ⟨acceptable, plain, parent, second, name, last, inside, below, rfl⟩

theorem parentOf_of_isAbsolute (absolute : Path.isAbsolute path = true) :
    store.parentOf there path = store.parentOf here path := by
  simp only [parentOf, absolute, if_true]

theorem locate_of_sameDirectories {spot : Spot} (same : store.SameDirectories other)
    (located : store.locate directory path = .ok spot) :
    other.locate directory path = .ok spot := by
  simp only [locate, Fallible.guard_eq_ok_iff, Fallible.bind_eq_ok_iff] at located ⊢
  obtain ⟨nul, empty, short, parent, followed, found⟩ := located
  exact ⟨nul, empty, short, parent, follow_of_sameDirectories same followed, found⟩

/-- A name without a slash is its own only component. -/
theorem components_of_bare (bare : Path.hasSlash path = false) :
    Path.components path = [path].filter fun name => !name.isEmpty := by
  have uncut : ∀ (seen rest : List Char), '/' ∉ rest →
      Path.splitAtSlashes seen rest = [String.ofList (seen.reverse ++ rest)] := by
    intro seen rest absent
    induction rest generalizing seen with
    | nil => simp [Path.splitAtSlashes]
    | cons character others ih =>
        rw [List.mem_cons, not_or] at absent
        rw [Path.splitAtSlashes, if_neg (Ne.symm absent.1), ih _ absent.2]
        simp
  have absent : '/' ∉ path.toList := by simpa [Path.hasSlash] using bare
  rw [Path.components, uncut [] _ absent]
  simp

/-- What a bare name leads to is in the directory that it is followed from. -/
theorem parentOf_of_bare (bare : Path.hasSlash path = false) :
    store.parentOf directory path = .ok directory := by
  have relative : Path.isAbsolute path = false := by
    rw [Path.isAbsolute, beq_eq_false_iff_ne]
    intro first
    have present := List.mem_of_mem_head? first
    simp [Path.hasSlash, present] at bare
  have single : (Path.components path).dropLast = [] := by
    rw [components_of_bare bare]
    cases empty : path.isEmpty <;> simp [empty]
  rw [parentOf, relative, single]
  rfl

/-! ## Opening what a path leads to -/

theorem look_eq_ok_iff {spot : Spot} {found : Option Node} :
    store.look spot = .ok found ↔
      (spot.location.getLastD "").utf8ByteSize ≤ Path.nameLimit ∧
        store.find? spot.location = found := by
  by_cases long : Path.nameLimit < (spot.location.getLastD "").utf8ByteSize
  · rw [look, if_pos long]
    simp only [reduceCtorEq, false_iff, not_and]
    exact fun short => absurd long (Nat.not_lt.mpr short)
  · rw [look, if_neg long, Except.ok.injEq]
    exact (and_iff_right (Nat.not_lt.mp long)).symm

theorem Leads.openNode_eq (found : store.Leads directory path location)
    (short : (location.getLastD "").utf8ByteSize ≤ Path.nameLimit)
    (present : store.find? location = some node) (plain : node ≠ .directory) :
    store.openNode directory path = .ok (location, node) := by
  have look : store.look ⟨location, false⟩ = .ok (some node) :=
    look_eq_ok_iff.mpr ⟨short, present⟩
  have located : store.locate directory path = .ok ⟨location, false⟩ := found
  cases node with
  | directory => contradiction
  | file | program | device =>
      simp only [openNode, located, look, bind, Except.bind, pure, Except.pure]

/-- What a file holds is read under every path that leads to it. -/
theorem read_of_openNode {executable : Bool}
    (opened : store.openNode directory path = .ok (location, .file content executable)) :
    store.read directory path = .ok content := by
  simp only [read, openToRead, opened, bind, Except.bind, pure, Except.pure, Node.content]

theorem enter_eq_ok_iff :
    store.enter directory path = .ok location ↔
      ∃ asDirectory, store.locate directory path = .ok ⟨location, asDirectory⟩ ∧
        store.look ⟨location, asDirectory⟩ = .ok (some .directory) := by
  simp only [enter, openNode, Fallible.bind_eq_ok_iff]
  constructor
  · rintro ⟨⟨place, node⟩, ⟨spot, located, found, looked, opened⟩, entered⟩
    split at entered
    · rename_i same
      cases same
      cases entered
      split at opened
      · contradiction
      · cases opened
        exact ⟨spot.asDirectory, located, looked⟩
      · contradiction
      · rename_i other _
        cases opened
        exact absurd rfl other
    · contradiction
  · rintro ⟨asDirectory, located, looked⟩
    exact ⟨(location, .directory), ⟨_, located, _, looked, rfl⟩, rfl⟩

theorem enter_of_sameDirectories (same : store.SameDirectories other)
    (entered : store.enter directory path = .ok location) :
    other.enter directory path = .ok location := by
  obtain ⟨asDirectory, located, looked⟩ := enter_eq_ok_iff.mp entered
  obtain ⟨short, present⟩ := look_eq_ok_iff.mp looked
  exact enter_eq_ok_iff.mpr ⟨asDirectory, locate_of_sameDirectories same located,
    look_eq_ok_iff.mpr ⟨short, (same location).mp present⟩⟩

/-- Places where a file is or can be created, and devices that take bytes. -/
theorem writable_eq_ok (writable : store.writable directory path = .ok location) :
    store.Leads directory path location ∧
      (location.getLastD "").utf8ByteSize ≤ Path.nameLimit ∧
      store.find? location ≠ some .directory := by
  simp only [FileStore.writable, Fallible.bind_eq_ok_iff, Fallible.guard_eq_ok_iff] at writable
  obtain ⟨⟨place, asDirectory⟩, located, plain, node, looked, free⟩ := writable
  have opens : asDirectory = false := by simpa using plain
  subst opens
  obtain ⟨short, present⟩ := look_eq_ok_iff.mp looked
  split at free
  · exact absurd free Fallible.throw_ne_ok
  · exact absurd free Fallible.throw_ne_ok
  · exact absurd free Fallible.throw_ne_ok
  · rename_i other _ _
    cases free
    exact ⟨located, short, present ▸ other⟩

/-! ## What writing keeps -/

/-- Where no directory stands, something else can be put without harm to any path. -/
theorem sameDirectories_put (free : store.find? location ≠ some .directory)
    (plain : node ≠ .directory) : store.SameDirectories (store.put location node) := by
  have below : location ≠ [] := fun root => free (by simp [root, find?])
  intro place
  by_cases here : place = location
  · subst here
    rw [find?_put_self below, Option.some_inj]
    exact iff_of_false free plain
  · rw [find?_put_of_ne here]

theorem sameDirectories_overwrite (free : store.find? location ≠ some .directory)
    (content : List UInt8) : store.SameDirectories (store.overwrite location content) := by
  unfold overwrite
  split
  · exact .refl store
  · exact sameDirectories_put free nofun
  · exact sameDirectories_put free nofun

theorem sameDirectories_markExecutable (store : FileStore) (location : Location) :
    store.SameDirectories (store.markExecutable location) := by
  unfold markExecutable
  split
  · rename_i present
    exact sameDirectories_put (by simp [present]) nofun
  · exact .refl store

theorem sameDirectories_writeAt (store : FileStore) (location : Location) (offset : Nat)
    (bytes : List UInt8) : store.SameDirectories (store.writeAt location offset bytes) := by
  unfold writeAt
  split
  · rename_i present
    exact sameDirectories_put (by simp [present]) nofun
  · exact .refl store

/-- Where neither a directory nor a device stands, a written file holds what was written. -/
theorem find?_overwrite_self (free : store.find? location ≠ some .directory)
    (plain : ∀ device, store.find? location ≠ some (.device device)) (content : List UInt8) :
    ∃ executable,
      (store.overwrite location content).find? location = some (.file content executable) := by
  have below : location ≠ [] := fun root => free (by simp [root, find?])
  unfold overwrite
  split
  · rename_i device present
    exact absurd present (plain device)
  · exact ⟨_, find?_put_self below _ _⟩
  · exact ⟨_, find?_put_self below _ _⟩

theorem find?_markExecutable_self {executable : Bool}
    (present : store.find? location = some (.file content executable)) :
    (store.markExecutable location).find? location = some (.file content true) := by
  have below : location ≠ [] := by
    rintro rfl
    simp [find?] at present
  simp only [markExecutable, present, find?_put_self below]

end FigureScript.FileStore
