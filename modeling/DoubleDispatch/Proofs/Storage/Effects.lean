import DoubleDispatch.Proofs.Storage.Changes

/-! What replacing a file may leave behind at any moment: new directories above the target, then a
scratch file beside it, and in the end the target itself. -/
namespace DoubleDispatch.Storage

namespace World

/- Whatever stands somewhere stands in a directory. -/
def Rooted (w : World) : Prop :=
  ∀ q x, (w.item? (q ++ [x])).isSome = true → w.item? q = some .directory

/- Nothing was there, and now a directory is that one of the paths leads to. -/
structure NewDirectory (paths : List Pathname) (world w : World) (place : Place) : Prop where
  missing : world.item? place = none
  reached : ∃ path ∈ paths, w.find path = .ok (⟨place, true⟩, .directory)

/- Every place holds what it held, or is such a directory. -/
structure Grown (paths : List Pathname) (world w : World) : Prop where
  standing : w.standing = world.standing
  home : w.home = world.home
  items : ∀ q, w.item? q = world.item? q ∨ NewDirectory paths world w q
  rooted : w.Rooted

/- The path goes on naming the place that it named, and a place that it names holds what it held or
the whole text. Only a path that climbs can lead to a directory that was made on the way to it. -/
structure Whole (world : World) (target : Pathname) (text : String) (w : World) : Prop where
  kept : ∀ position item, world.find target = .ok (position, item) →
    ∃ now, w.find target = .ok (position, now)
  holds : ∀ place item, w.find target = .ok (⟨place, true⟩, item) →
    world.item? place = some item ∨ item = .file text.toUTF8 ∨
      ".." ∈ target.segments ∧ item = .directory ∧ NewDirectory target.chain world w place

/- The path names a file with the text, where no directory was, and every other place holds what it
held or is a directory that was made on the way. -/
structure Replaced (world : World) (target : Pathname) (text : String) (w : World) : Prop where
  standing : w.standing = world.standing
  home : w.home = world.home
  items : ∃ place, w.find target = .ok (⟨place, true⟩, .file text.toUTF8) ∧
    world.item? place ≠ some .directory ∧
    ∀ q, q ≠ place → w.item? q = world.item? q ∨ NewDirectory target.chain world w q

variable {paths : List Pathname} {world base w v : World} {path target scratch : Pathname}
  {place q : Place} {item : Item} {content : ByteArray} {text : String}

theorem NewDirectory.here (new : NewDirectory paths world w q) : w.item? q = some .directory := by
  obtain ⟨path, _, reached⟩ := new.reached
  exact findItem reached

theorem NewDirectory.later (new : NewDirectory paths world w q) (keeps : Keeps w v) :
    NewDirectory paths world v q := by
  obtain ⟨path, member, reached⟩ := new.reached
  exact ⟨new.missing, path, member, keeps.find reached⟩

/- Only a path that climbs leads to a directory made on the way to it. -/
theorem NewDirectory.taken (new : NewDirectory target.chain world w q)
    (reached : w.find target = .ok (⟨q, true⟩, item)) :
    ".." ∈ target.segments ∧ item = .directory ∧ NewDirectory target.chain world w q := by
  have here := new.here
  rw [findItem reached] at here
  refine ⟨?_, Option.some.inj here, new⟩
  by_contra down
  obtain ⟨path, member, passed⟩ := new.reached
  exact chainPassed down member passed reached

namespace Grown

theorem refl (rooted : world.Rooted) : Grown paths world world :=
  ⟨rfl, rfl, fun _ => Or.inl rfl, rooted⟩

theorem held (grown : Grown paths world w) (here : world.item? q = some item) :
    w.item? q = some item := by
  rcases grown.items q with same | new
  · rw [same, here]
  · rw [new.missing] at here
    contradiction

theorem keeps (grown : Grown paths world w) : Keeps world w :=
  ⟨grown.standing, fun _ here => grown.held here⟩

theorem holds (grown : Grown paths world w) : Holds world w := by
  intro q here
  obtain ⟨item, there⟩ := Option.isSome_iff_exists.mp here
  rw [grown.held there]
  rfl

theorem makeDirectory (grown : Grown paths world w) (member : path ∈ paths)
    (ok : w.makeDirectory path = .ok v) : Grown paths world v := by
  obtain ⟨directory, name, inside, free, rfl, found⟩ := makeDirectoryOk ok
  have named : directory ++ [name] ≠ [] := by simp
  have keeps : Keeps w (w.put (directory ++ [name]) .directory) := Keeps.put named (by simp [free])
  refine ⟨grown.standing, grown.home, fun q => ?_, fun q x below => ?_⟩
  · by_cases here : q = directory ++ [name]
    · subst here
      rcases grown.items (directory ++ [name]) with same | new
      · exact Or.inr ⟨same ▸ free, path, member, found⟩
      · exact Or.inr (new.later keeps)
    · rw [itemPut named, if_neg here]
      exact (grown.items q).imp_right fun new => new.later keeps
  · apply keeps.directories
    rw [itemPut named] at below
    split at below
    · rename_i same
      rwa [(List.append_inj' same rfl).1]
    · exact grown.rooted q x below

/- Only what stands at the places matters. -/
theorem alike (grown : Grown paths world base) (standing : v.standing = base.standing)
    (home : v.home = base.home) (items : ∀ q, v.item? q = base.item? q) : Grown paths world v := by
  have keeps : Keeps base v := ⟨standing, fun q here => (items q).trans here⟩
  refine ⟨standing.trans grown.standing, home.trans grown.home, fun q => ?_, fun q x below => ?_⟩
  · rw [items]
    exact (grown.items q).imp_right fun new => new.later keeps
  · rw [items] at below ⊢
    exact grown.rooted q x below

theorem whole (grown : Grown target.chain world w) : Whole world target text w := by
  refine ⟨fun position item reached => grown.keeps.findHeld grown.holds reached,
    fun place item reached => ?_⟩
  rcases grown.items place with same | new
  · exact Or.inl (same ▸ findItem reached)
  · exact Or.inr (Or.inr (new.taken reached))

end Grown

/- A scratch file stands beside the target, where nothing was, and all else is as before. -/
structure Staged (base : World) (target scratch : Pathname) (place : Place) (content : ByteArray)
    (w : World) : Prop where
  standing : w.standing = base.standing
  home : w.home = base.home
  free : base.item? place = none
  items : ∀ q, w.item? q = if q = place then some (.file content) else base.item? q
  found : w.find scratch = .ok (⟨place, true⟩, .file content)
  named : ∃ directory attempt, place =
    directory ++ [scratchName (target.fileName?.getD "out") attempt]
  linked : (w.start target).linked = true

theorem stemFree (target : Pathname) : '/' ∉ (target.fileName?.getD "out").toList := by
  cases found : target.fileName? with
  | none => decide
  | some name => exact target.segmentsFree name (Pathname.fileNameMember found)

theorem createFileStaged {directory : Pathname} {name : String} {attempt : Nat}
    (linked : (w.start target).linked = true)
    (scratch : name = scratchName (target.fileName?.getD "out") attempt)
    (ok : w.createFile (directory.join ⟨name⟩) = .ok v) :
    ∃ place, Staged w target (directory.join ⟨name⟩) place ByteArray.empty v := by
  obtain ⟨place, last, leaf, free, rfl⟩ := createFileOk ok
  have slashless : '/' ∉ name.toList := scratch ▸ scratchNameFree (stemFree target) attempt
  obtain ⟨front, whole⟩ := directory.joinSegments slashless
  obtain ⟨before, same⟩ := leaf.last
  cases (List.cons.inj (List.append_inj' (whole.symm.trans same) rfl).2).1
  have named : place ++ [name] ≠ [] := by simp
  have items := itemPut named w (.file ByteArray.empty)
  have keeps : Keeps w (w.put (place ++ [name]) (.file ByteArray.empty)) :=
    Keeps.put named (by simp [free])
  refine ⟨_, rfl, rfl, free, items, leaf.found _ _ keeps ?_, ⟨place, attempt, ?_⟩, linked⟩
  · rw [items, if_pos rfl]
  · rw [scratch]

namespace Staged

theorem nonroot (s : Staged base target scratch place content w) : place ≠ [] := by
  obtain ⟨directory, attempt, rfl⟩ := s.named
  simp

theorem here (s : Staged base target scratch place content w) :
    w.item? place = some (.file content) :=
  findItem s.found

theorem other (s : Staged base target scratch place content w) (apart : q ≠ place) :
    w.item? q = base.item? q := by
  rw [s.items, if_neg apart]

theorem held (s : Staged base target scratch place content w) (here : base.item? q = some item) :
    w.item? q = some item := by
  have apart : q ≠ place := by
    rintro rfl
    rw [s.free] at here
    contradiction
  rwa [s.other apart]

theorem keeps (s : Staged base target scratch place content w) : Keeps base w :=
  ⟨s.standing, fun _ here => s.held here⟩

/- Only what the scratch file holds differs. -/
theorem write (s : Staged base target scratch place content w) (new : ByteArray) :
    Staged base target scratch place new (w.put place (.file new)) := by
  have items := itemPut s.nonroot w (.file new)
  have keeps : Keeps w (w.put place (.file new)) := Keeps.put s.nonroot (by simp [s.here])
  have holds : Holds w (w.put place (.file new)) := by
    intro q here
    rw [items]
    split
    · rfl
    · exact here
  obtain ⟨now, found⟩ := keeps.findHeld holds s.found
  have same := findItem found
  rw [items, if_pos rfl] at same
  cases same
  refine ⟨s.standing, s.home, s.free, fun q => ?_, found, s.named, s.linked⟩
  rw [items]
  split
  · rfl
  · rename_i apart
    exact s.other apart

theorem discard (s : Staged base target scratch place content w) (grown : Grown paths world base) :
    Grown paths world (w.erase place) := by
  refine grown.alike s.standing s.home fun q => ?_
  rw [itemErase s.nonroot]
  split
  · rename_i here
    rw [here, s.free]
  · rename_i apart
    exact s.other apart

/- A path that ends with the name of the scratch file has another scratch name. -/
theorem nameAside (s : Staged base target scratch place content w) {directory : Place}
    {name : String} (same : directory ++ [name] = place) (noise : Pathname.isNoise name = false)
    (down : name ≠ "..") :
    ¬ ∃ front, target.segments = front ++ [name] := by
  rintro ⟨front, whole⟩
  obtain ⟨beside, attempt, named⟩ := s.named
  rw [Pathname.fileNameLast whole noise down, Option.getD_some] at named
  have last := List.cons.inj (List.append_inj' (same.trans named) rfl).2
  exact scratchNameLonger name attempt last.1.symm

theorem aside (s : Staged base target scratch place content w) (rooted : base.Rooted)
    (reached : w.find target = .ok (⟨q, true⟩, item)) : q ≠ place := by
  rintro rfl
  obtain ⟨directory, attempt, named⟩ := s.named
  have here := findItem reached
  rw [s.here] at here
  cases here
  have below : ∀ x, w.item? (q ++ [x]) = none := by
    intro x
    rw [s.other (by simp)]
    by_contra some_
    have inside := rooted q x (Option.isSome_iff_ne_none.mpr some_)
    rw [s.free] at inside
    contradiction
  subst named
  obtain ⟨front, whole, noise, down⟩ := reachedByName reached s.linked below
  exact s.nameAside rfl noise down ⟨front, whole⟩

theorem whole (s : Staged base target scratch place content w)
    (grown : Grown target.chain world base) :
    Whole world target text w := by
  have keeps : Keeps world w := grown.keeps.trans s.keeps
  have holds : Holds world w := by
    intro q here
    obtain ⟨item, there⟩ := Option.isSome_iff_exists.mp here
    rw [s.held (grown.held there)]
    rfl
  refine ⟨fun position item reached => keeps.findHeld holds reached, fun q item reached => ?_⟩
  rcases grown.items q with same | new
  · have here := findItem reached
    rw [s.other (s.aside grown.rooted reached), same] at here
    exact Or.inl here
  · exact Or.inr (Or.inr ((new.later s.keeps).taken reached))

/- Moved into place, the scratch file is gone and the target has its content. -/
theorem moved (s : Staged base target scratch place text.toUTF8 w)
    (grown : Grown target.chain world base) (ok : w.moveFile scratch target = .ok v) :
    Replaced world target text v := by
  obtain ⟨position, content, directory, name, reached, leaf, file, rfl⟩ := moveFileOk ok
  rw [s.found] at reached
  cases reached
  have apart : directory ++ [name] ≠ place := fun same =>
    s.nameAside same leaf.noise leaf.down leaf.last
  have named : directory ++ [name] ≠ [] := by simp
  have items : ∀ q, ((w.erase place).put (directory ++ [name]) (.file text.toUTF8)).item? q =
      if q = directory ++ [name] then some (.file text.toUTF8) else base.item? q := by
    intro q
    rw [itemPut named, itemErase s.nonroot]
    split
    · rfl
    · split
      · rename_i here
        rw [here, s.free]
      · rename_i beside
        exact s.other beside
  rw [s.other apart] at file
  have erased : Keeps w (w.erase place) := Keeps.erase s.nonroot (by simp [s.here])
  have keeps : Keeps w ((w.erase place).put (directory ++ [name]) (.file text.toUTF8)) := by
    refine erased.trans (Keeps.put named ?_)
    rwa [itemErase s.nonroot, if_neg apart, s.other apart]
  refine ⟨s.standing.trans grown.standing, s.home.trans grown.home, directory ++ [name],
    leaf.found _ _ keeps ?_, fun directory_ => file (grown.held directory_), fun q other => ?_⟩
  · rw [items, if_pos rfl]
  · rw [items, if_neg other]
    exact (grown.items q).imp_right fun new => new.later (s.keeps.trans keeps)

end Staged

namespace Replaced

theorem held (replaced : Replaced world target text w) (here : world.item? q = some item) :
    w.item? q = some item ∨ item ≠ .directory ∧ w.item? q = some (.file text.toUTF8) := by
  obtain ⟨place, found, file, items⟩ := replaced.items
  by_cases same : q = place
  · subst same
    refine Or.inr ⟨?_, findItem found⟩
    rintro rfl
    exact file here
  · rcases items q same with same | new
    · exact Or.inl (same.trans here)
    · rw [new.missing] at here
      contradiction

theorem keeps (replaced : Replaced world target text w) : Keeps world w :=
  ⟨replaced.standing, fun _ here => (replaced.held here).resolve_right fun changed => changed.1 rfl⟩

theorem holds (replaced : Replaced world target text w) : Holds world w := by
  intro q here
  obtain ⟨item, there⟩ := Option.isSome_iff_exists.mp here
  rcases replaced.held there with same | changed
  · rw [same]
    rfl
  · rw [changed.2]
    rfl

theorem whole (replaced : Replaced world target text w) : Whole world target text w := by
  refine ⟨fun position item reached => replaced.keeps.findHeld replaced.holds reached,
    fun q item reached => ?_⟩
  obtain ⟨place, found, _⟩ := replaced.items
  rw [found] at reached
  cases reached
  exact Or.inr (Or.inl rfl)

end Replaced

end World
end DoubleDispatch.Storage
