import DoubleDispatch.Proofs.Storage.Pathnames
import DoubleDispatch.Proofs.Storage.Places

/-! What each change of a storage does to its places, and how what was put there is found. -/
namespace DoubleDispatch.Storage.World
open Outcome (bindOk)

variable {w v : World} {path source target : Pathname} {position : Position} {place : Place}
  {item : Item} {content : ByteArray}

theorem Keeps.put (named : place ≠ []) (other : w.item? place ≠ some .directory) :
    Keeps w (w.put place item) := by
  refine ⟨rfl, fun q here => ?_⟩
  have apart : q ≠ place := fun same => other (same ▸ here)
  rwa [itemPut named, if_neg apart]

theorem Keeps.erase (named : place ≠ []) (other : w.item? place ≠ some .directory) :
    Keeps w (w.erase place) := by
  refine ⟨rfl, fun q here => ?_⟩
  have apart : q ≠ place := fun same => other (same ▸ here)
  rwa [itemErase named, if_neg apart]

theorem makeDirectoryOk (ok : w.makeDirectory path = .ok v) : ∃ directory name,
    w.item? directory = some .directory ∧ w.item? (directory ++ [name]) = none ∧
    v = w.put (directory ++ [name]) .directory ∧
    v.find path = .ok (⟨directory ++ [name], true⟩, .directory) := by
  simp only [makeDirectory, bindOk] at ok
  obtain ⟨slot, taken, ok⟩ := ok
  split at ok
  · contradiction
  · rename_i free
    cases ok
    obtain ⟨before, name, blanks, directory, s⟩ := slotOk taken
    rw [Option.not_isSome_iff_eq_none] at free
    have keeps : Keeps w (w.put slot.place .directory) := Keeps.put s.nonroot (by simp [free])
    have found := s.find keeps (by rw [itemPut s.nonroot, if_pos rfl]) (Or.inl rfl)
    refine ⟨directory, name, s.inside, ?_⟩
    rw [← s.place]
    exact ⟨free, rfl, found⟩

/- The last segment of a path is the name of a place in a directory, and whatever comes to stand
there is found by the path. -/
structure Leaf (w : World) (path : Pathname) (directory : Place) (name : String) : Prop where
  last : ∃ front, path.segments = front ++ [name]
  noise : Pathname.isNoise name = false
  down : name ≠ ".."
  inside : w.item? directory = some .directory
  found : ∀ v item, Keeps w v → v.item? (directory ++ [name]) = some item →
    v.find path = .ok (⟨directory ++ [name], true⟩, item)

theorem slotLeaf {slot : Slot} {unnamed : Fault} (taken : w.slot path unnamed = .ok slot)
    (bare : slot.slashed = false) : ∃ directory name,
      slot.place = directory ++ [name] ∧ Leaf w path directory name := by
  obtain ⟨before, name, blanks, directory, s⟩ := slotOk taken
  refine ⟨directory, name, s.place, ⟨before, ?_⟩, s.noise, s.down, s.inside,
    fun v item keeps held => ?_⟩
  · rw [s.segments, s.bare bare]
  · rw [← s.place] at held ⊢
    exact s.find keeps held (Or.inr bare)

theorem createFileOk (ok : w.createFile path = .ok v) : ∃ directory name,
    Leaf w path directory name ∧ w.item? (directory ++ [name]) = none ∧
    v = w.put (directory ++ [name]) (.file ByteArray.empty) := by
  simp only [createFile, bindOk] at ok
  obtain ⟨slot, taken, ok⟩ := ok
  split at ok
  · contradiction
  · rename_i slashed
    rw [Bool.not_eq_true] at slashed
    split at ok
    · contradiction
    · rename_i free
      cases ok
      obtain ⟨directory, name, place, leaf⟩ := slotLeaf taken slashed
      refine ⟨directory, name, leaf, ?_⟩
      rw [← place]
      exact ⟨Option.not_isSome_iff_eq_none.mp free, rfl⟩

theorem writeTextOk {text : String} (ok : w.writeText path text = .ok v) : ∃ position old,
    w.find path = .ok (position, .file old) ∧ v = w.put position.place (.file text.toUTF8) := by
  simp only [writeText, bindOk] at ok
  obtain ⟨⟨position, item⟩, reached, ok⟩ := ok
  cases item with
  | directory => contradiction
  | file old =>
    cases ok
    exact ⟨position, old, reached, rfl⟩

theorem moveFileOk (ok : w.moveFile source target = .ok v) : ∃ position content directory name,
    w.find source = .ok (position, .file content) ∧ Leaf w target directory name ∧
    w.item? (directory ++ [name]) ≠ some .directory ∧
    v = (w.erase position.place).put (directory ++ [name]) (.file content) := by
  simp only [moveFile, bindOk] at ok
  obtain ⟨⟨position, item⟩, reached, ok⟩ := ok
  cases item with
  | directory => contradiction
  | file content =>
    simp only [bindOk] at ok
    obtain ⟨slot, taken, ok⟩ := ok
    split at ok
    · contradiction
    · rename_i other
      split at ok
      · contradiction
      · rename_i slashed
        rw [Bool.not_eq_true] at slashed
        cases ok
        obtain ⟨directory, name, place, leaf⟩ := slotLeaf taken slashed
        refine ⟨position, content, directory, name, reached, leaf, ?_⟩
        rw [← place]
        exact ⟨other, rfl⟩

theorem removeFileFile (reached : w.find path = .ok (position, .file content)) :
    w.removeFile path = .ok (w.erase position.place) := by
  rw [removeFile, reached]
  rfl

/- A way that begins at a place ends at one. -/
theorem walkLinked {segments : List String} {found : Position} (linked : position.linked = true)
    (walked : w.walk position segments = .ok found) : found.linked = true := by
  induction segments generalizing position with
  | nil => rwa [walkNil.mp walked]
  | cons segment rest ih =>
    obtain ⟨next, entered, later⟩ := walkCons.mp walked
    refine ih ?_ later
    cases (enterOk.mp entered).2 with
    | stays noise => exact linked
    | climbs up => rfl
    | descends name down linked short held => rfl

/- A file with nothing below it is reached only by a path that ends with its name: a step that stays
ends at a directory, and one that climbs comes from below. -/
theorem reachedByName {directory : Place} {name : String}
    (reached : w.find path = .ok (⟨directory ++ [name], true⟩, .file content))
    (linked : (w.start path).linked = true)
    (below : ∀ x, w.item? (directory ++ [name] ++ [x]) = none) :
    ∃ front, path.segments = front ++ [name] ∧ Pathname.isNoise name = false ∧ name ≠ ".." := by
  obtain ⟨_, walked, here⟩ := findOk.mp reached
  have whole := List.dropLast_append_getLast path.segmentsSome
  rw [← whole] at walked ⊢
  obtain ⟨before, began, later⟩ := walkAppend.mp walked
  obtain ⟨after, entered, ended⟩ := walkCons.mp later
  have same := walkNil.mp ended
  obtain ⟨inside, step⟩ := enterOk.mp entered
  cases step with
  | stays noise =>
    rw [← same, here] at inside
    cases inside
  | climbs up =>
    have prefixed : before.place.dropLast = directory ++ [name] :=
      (congrArg Position.place same).symm
    have some_ : before.place ≠ [] := by
      intro none
      simp [none] at prefixed
    have from_ := List.dropLast_append_getLast some_
    rw [prefixed] at from_
    rw [at?, if_pos (walkLinked linked began), ← from_, below] at inside
    contradiction
  | descends noise down linked short held =>
    have ends := List.append_inj_right' (congrArg Position.place same) rfl
    rw [List.cons.inj ends |>.1]
    exact ⟨_, rfl, noise, down⟩

/- Without a step upwards a way ends as many names below its start as it has. -/
theorem walkDepth {segments : List String} {found : Position} (down : ".." ∉ segments)
    (walked : w.walk position segments = .ok found) : found.place.length =
      position.place.length + segments.countP fun s => !Pathname.isNoise s := by
  induction segments generalizing position with
  | nil => simp [walkNil.mp walked]
  | cons segment rest ih =>
    obtain ⟨next, entered, later⟩ := walkCons.mp walked
    rw [List.mem_cons, not_or] at down
    have ended := ih down.2 later
    rw [ended, List.countP_cons]
    cases (enterOk.mp entered).2 with
    | stays noise => simp [noise]
    | climbs up => exact absurd up.symm down.1
    | descends noise down linked short held =>
      simp [noise]
      omega

/- A path that never climbs does not come back to a directory on the way to it. -/
theorem chainPassed {other : Item} (down : ".." ∉ target.segments) (member : path ∈ target.chain)
    (passed : w.find path = .ok (position, item)) : w.find target ≠ .ok (position, other) := by
  intro reached
  obtain ⟨checked, above, _⟩ := findOk.mp passed
  obtain ⟨_, walked, _⟩ := findOk.mp reached
  have named : path.text ≠ "" := by
    intro none
    simp [Pathname.check, Pathname.isEmpty, none] at checked
  obtain ⟨higher, fewer⟩ := Pathname.chainAbove member named
  have start : w.start path = w.start target := by rw [World.start, World.start, higher.start]
  have high := walkDepth (higher.down down) above
  have low := walkDepth down walked
  rw [start] at high
  unfold Pathname.depth at fewer
  omega

end DoubleDispatch.Storage.World
