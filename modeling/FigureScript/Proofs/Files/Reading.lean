import FigureScript.Proofs.Files.Paths

namespace FigureScript.FileStore

/-! # What is read after a change

Where the directories are the same, reading a path finds what stands at its place. A file that is
emptied is the only one that reads differently afterwards.
-/

variable {store other : FileStore} {directory location place : Location} {path : String}
  {bytes content : List UInt8} {node : Node} {device : Device}

theorem openNode_eq_ok_iff :
    store.openNode directory path = .ok (location, node) ↔
      ∃ asDirectory, store.locate directory path = .ok ⟨location, asDirectory⟩ ∧
        store.look ⟨location, asDirectory⟩ = .ok (some node) ∧
        (node = .directory ∨ asDirectory = false) := by
  simp only [openNode, Fallible.bind_eq_ok_iff]
  constructor
  · rintro ⟨spot, located, looked, seen, opened⟩
    split at opened
    · contradiction
    · cases opened
      exact ⟨spot.asDirectory, located, seen, .inl rfl⟩
    · contradiction
    · rename_i _ plain
      cases opened
      exact ⟨spot.asDirectory, located, seen, .inr plain⟩
  · rintro ⟨asDirectory, located, seen, plain⟩
    refine ⟨_, located, _, seen, ?_⟩
    cases node with
    | directory => rfl
    | file | program | device =>
        rcases plain with impossible | rfl
        · contradiction
        · rfl

theorem read_eq_ok_iff :
    store.read directory path = .ok bytes ↔
      ∃ location node, store.openNode directory path = .ok (location, node) ∧
        node ≠ .device .terminal ∧ node.content = .ok bytes := by
  simp only [read, openToRead, Fallible.bind_eq_ok_iff]
  constructor
  · rintro ⟨node, ⟨⟨location, found⟩, opened, passed⟩, content⟩
    split at passed
    · exact absurd passed Fallible.throw_ne_ok
    · rename_i other same
      cases passed
      cases same
      exact ⟨location, node, opened, other, content⟩
  · rintro ⟨location, node, opened, other, content⟩
    refine ⟨node, ⟨_, opened, ?_⟩, content⟩
    split
    · rename_i same
      cases same
      exact absurd rfl other
    · rename_i same
      cases same
      rfl

theorem find?_of_openNode (opened : store.openNode directory path = .ok (location, node)) :
    store.find? location = some node := by
  obtain ⟨_, _, looked, _⟩ := openNode_eq_ok_iff.mp opened
  exact (look_eq_ok_iff.mp looked).2

/-- Where a path leads decides what it opens. -/
theorem openNode_of_sameDirectories (same : store.SameDirectories other)
    (opened : store.openNode directory path = .ok (location, node))
    (here : other.find? location = store.find? location) :
    other.openNode directory path = .ok (location, node) := by
  obtain ⟨asDirectory, located, looked, plain⟩ := openNode_eq_ok_iff.mp opened
  obtain ⟨short, present⟩ := look_eq_ok_iff.mp looked
  exact openNode_eq_ok_iff.mpr ⟨asDirectory, locate_of_sameDirectories same located,
    look_eq_ok_iff.mpr ⟨short, here.trans present⟩, plain⟩

/-! ## What changes leave alone -/

theorem find?_overwrite_device_iff (free : store.find? place ≠ some .directory) :
    (store.overwrite place content).find? location = some (.device device) ↔
      store.find? location = some (.device device) := by
  by_cases here : location = place
  · subst here
    by_cases special : ∃ device, store.find? location = some (.device device)
    · obtain ⟨other, present⟩ := special
      simp only [overwrite, present]
    · have plain : ∀ device, store.find? location ≠ some (.device device) :=
        fun device present => special ⟨device, present⟩
      obtain ⟨executable, written⟩ := find?_overwrite_self free plain content
      rw [written]
      simp [plain]
  · rw [find?_overwrite_of_ne here]

theorem find?_writeAt_device_iff {offset : Nat} :
    (store.writeAt place offset content).find? location = some (.device device) ↔
      store.find? location = some (.device device) := by
  by_cases here : location = place
  · subst here
    unfold writeAt
    split
    · rename_i present executable found
      have below : location ≠ [] := by
        intro root
        simp [root, find?] at found
      rw [find?_put_self below, found]
      simp
    · rfl
  · rw [find?_writeAt_of_ne here]

/-- Bytes that are read although a file was emptied were there before. -/
theorem read_of_emptied (free : store.find? place ≠ some .directory)
    (read : (store.overwrite place []).read directory path = .ok bytes) (nonempty : bytes ≠ []) :
    store.read directory path = .ok bytes := by
  obtain ⟨location, node, opened, other, content⟩ := read_eq_ok_iff.mp read
  have same := sameDirectories_overwrite free []
  refine read_eq_ok_iff.mpr ⟨location, node, openNode_of_sameDirectories same.symm opened ?_, other,
    content⟩
  by_cases here : location = place
  · subst here
    by_cases special : ∃ device, store.find? location = some (.device device)
    · obtain ⟨device, present⟩ := special
      simp only [overwrite, present]
    · obtain ⟨executable, emptied⟩ :=
        find?_overwrite_self free (fun device present => special ⟨device, present⟩) []
      rw [find?_of_openNode opened, Option.some_inj] at emptied
      subst emptied
      cases content
      contradiction
  · exact (find?_overwrite_of_ne here store []).symm

end FigureScript.FileStore
