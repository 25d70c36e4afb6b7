import DoubleDispatch.Proofs.Outcome
import DoubleDispatch.Storage.World

/-! Ways through a storage. A way that leads somewhere goes on leading there as long as no directory
is taken away that it passes, and nothing at its end. -/
namespace DoubleDispatch.Storage
open Outcome (bindOk)

namespace World

variable {w v : World} {path : Pathname} {position found : Position} {item : Item}

theorem lookupCons (q place : Place) (item : Item) (rest : List (Place × Item)) :
    ((place, item) :: rest).lookup q = if q = place then some item else rest.lookup q := by
  by_cases same : q = place
  · simp [same]
  · simp [same, List.lookup_cons, beq_false_of_ne same]

theorem lookupErased (place q : Place) (entries : List (Place × Item)) :
    (entries.filter (fun entry => entry.1 != place)).lookup q =
      if q = place then none else entries.lookup q := by
  induction entries with
  | nil => simp
  | cons entry rest ih =>
    obtain ⟨key, held⟩ := entry
    rw [lookupCons, List.filter_cons]
    by_cases here : key = place
    · subst here
      simp only [bne_self_eq_false, Bool.false_eq_true, if_false, ih]
      split <;> rfl
    · rw [if_pos (bne_iff_ne.mpr here), lookupCons, ih]
      by_cases same : q = key
      · subst same
        rw [if_pos rfl, if_neg here, if_pos rfl]
      · rw [if_neg same, if_neg same]

theorem itemErase {place : Place} (named : place ≠ []) (w : World) (q : Place) :
    (w.erase place).item? q = if q = place then none else w.item? q := by
  by_cases root : q = []
  · subst root
    rw [if_neg (Ne.symm named)]
    rfl
  · simp only [item?, erase, List.isEmpty_iff, root, if_false]
    exact lookupErased place q w.entries

theorem itemPut {place : Place} (named : place ≠ []) (w : World) (item : Item) (q : Place) :
    (w.put place item).item? q = if q = place then some item else w.item? q := by
  by_cases root : q = []
  · subst root
    rw [if_neg (Ne.symm named)]
    rfl
  · simp only [item?, put, erase, List.isEmpty_iff, root, if_false]
    rw [lookupCons, lookupErased]
    split <;> rfl

/- Where a step from a directory leads. -/
inductive Step (w : World) (position : Position) (segment : String) : Position → Prop where
  | stays (noise : Pathname.isNoise segment = true) : Step w position segment position
  | climbs (up : segment = "..") : Step w position segment ⟨position.place.dropLast, true⟩
  | descends (name : Pathname.isNoise segment = false) (down : segment ≠ "..")
      (linked : position.linked = true) (short : ¬ nameLimit < segment.utf8ByteSize)
      (held : (w.item? (position.place ++ [segment])).isSome = true) :
      Step w position segment ⟨position.place ++ [segment], true⟩

theorem enterOk {segment : String} : w.enter position segment = .ok found ↔
    w.at? position = some .directory ∧ Step w position segment found := by
  constructor
  · intro entered
    unfold enter at entered
    split at entered
    · rename_i here
      refine ⟨here, ?_⟩
      split at entered
      · rename_i noise
        cases entered
        exact .stays noise
      · rename_i name
        split at entered
        · rename_i up
          cases entered
          exact .climbs up
        · rename_i down
          split at entered
          · contradiction
          · rename_i linked
            split at entered
            · contradiction
            · rename_i short
              split at entered
              · rename_i held
                cases entered
                exact .descends (by simpa using name) down (by simpa using linked) short held
              · contradiction
    · contradiction
    · contradiction
  · rintro ⟨here, step⟩
    unfold enter
    rw [here]
    cases step with
    | stays noise => simp [noise]
    | climbs up =>
      subst up
      rfl
    | descends name down linked short held => simp [name, down, linked, short, held]

/- All directories of the one are directories of the other, and both stand at the same place. -/
structure Keeps (w v : World) : Prop where
  standing : v.standing = w.standing
  directories : ∀ q, w.item? q = some .directory → v.item? q = some .directory

namespace Keeps

theorem trans {u : World} (first : Keeps u w) (second : Keeps w v) : Keeps u v :=
  ⟨second.standing.trans first.standing,
    fun q here => second.directories q (first.directories q here)⟩

theorem start (keeps : Keeps w v) (path : Pathname) : v.start path = w.start path := by
  rw [World.start, World.start, keeps.standing]

theorem atDirectory (keeps : Keeps w v) (here : w.at? position = some .directory) :
    v.at? position = some .directory := by
  unfold World.at? at here ⊢
  split
  · rename_i linked
    rw [if_pos linked] at here
    exact keeps.directories _ here
  · rfl

theorem enter (keeps : Keeps w v) {segment : String}
    (entered : w.enter position segment = .ok found)
    (held : (w.at? found).isSome = true → (v.at? found).isSome = true) :
    v.enter position segment = .ok found := by
  obtain ⟨here, step⟩ := enterOk.mp entered
  refine enterOk.mpr ⟨keeps.atDirectory here, ?_⟩
  cases step with
  | stays noise => exact .stays noise
  | climbs up => exact .climbs up
  | descends name down linked short inside => exact .descends name down linked short (held inside)

end Keeps

theorem walkCons {segment : String} {segments : List String} :
    w.walk position (segment :: segments) = .ok found ↔
      ∃ next, w.enter position segment = .ok next ∧ w.walk next segments = .ok found := by
  rw [walk, List.foldlM_cons]
  exact bindOk

theorem walkAppend {front back : List String} : w.walk position (front ++ back) = .ok found ↔
    ∃ next, w.walk position front = .ok next ∧ w.walk next back = .ok found := by
  rw [walk, List.foldlM_append]
  exact bindOk

theorem walkNil : w.walk position [] = .ok found ↔ found = position := by
  rw [walk, List.foldlM_nil, Outcome.pureOk]

/- Whoever goes on from a place, or stays there, is at a directory. -/
theorem walkFrom {segments : List String} (walked : w.walk position segments = .ok found)
    (last : w.at? found = some .directory) : w.at? position = some .directory := by
  cases segments with
  | nil => exact walkNil.mp walked ▸ last
  | cons segment rest =>
    obtain ⟨next, entered, _⟩ := walkCons.mp walked
    exact (enterOk.mp entered).1

/- A way to a directory passes directories only. -/
theorem Keeps.walk (keeps : Keeps w v) {segments : List String}
    (walked : w.walk position segments = .ok found) (last : w.at? found = some .directory) :
    v.walk position segments = .ok found := by
  induction segments generalizing position with
  | nil => exact walkNil.mpr (walkNil.mp walked)
  | cons segment rest ih =>
    obtain ⟨next, entered, later⟩ := walkCons.mp walked
    have here := keeps.atDirectory (walkFrom later last)
    exact walkCons.mpr ⟨next, keeps.enter entered fun _ => by rw [here]; rfl, ih later⟩

/- Nothing that the one holds is missing in the other. -/
def Holds (w v : World) : Prop := ∀ q, (w.item? q).isSome = true → (v.item? q).isSome = true

theorem Holds.here (holds : Holds w v) (here : (w.at? position).isSome = true) :
    (v.at? position).isSome = true := by
  unfold at? at here ⊢
  split
  · rename_i linked
    rw [if_pos linked] at here
    exact holds position.place here
  · rfl

theorem Keeps.walkHeld (keeps : Keeps w v) (holds : Holds w v) {segments : List String}
    (walked : w.walk position segments = .ok found) : v.walk position segments = .ok found := by
  induction segments generalizing position with
  | nil => exact walkNil.mpr (walkNil.mp walked)
  | cons segment rest ih =>
    obtain ⟨next, entered, later⟩ := walkCons.mp walked
    exact walkCons.mpr ⟨next, keeps.enter entered holds.here, ih later⟩

theorem findOk : w.find path = .ok (position, item) ↔ path.check = .ok () ∧
    w.walk (w.start path) path.segments = .ok position ∧ w.at? position = some item := by
  constructor
  · intro reached
    simp only [find, locate, bindOk] at reached
    obtain ⟨p, ⟨_, checked, walked⟩, looked⟩ := reached
    split at looked
    · rename_i here
      cases looked
      exact ⟨checked, walked, here⟩
    · contradiction
  · rintro ⟨checked, walked, here⟩
    simp only [find, locate, bindOk]
    exact ⟨position, ⟨(), checked, walked⟩, by rw [here]⟩

theorem findItem {place : Place} (reached : w.find path = .ok (⟨place, true⟩, item)) :
    w.item? place = some item := (findOk.mp reached).2.2

theorem Keeps.find (keeps : Keeps w v) (reached : w.find path = .ok (position, .directory)) :
    v.find path = .ok (position, .directory) := by
  obtain ⟨checked, walked, here⟩ := findOk.mp reached
  exact findOk.mpr ⟨checked, by rw [keeps.start]; exact keeps.walk walked here,
    keeps.atDirectory here⟩

theorem Keeps.findHeld (keeps : Keeps w v) (holds : Holds w v)
    (reached : w.find path = .ok (position, item)) :
    ∃ other, v.find path = .ok (position, other) := by
  obtain ⟨checked, walked, here⟩ := findOk.mp reached
  obtain ⟨other, there⟩ := Option.isSome_iff_exists.mp
    (holds.here (Option.isSome_iff_exists.mpr ⟨item, here⟩))
  exact ⟨other, findOk.mpr ⟨checked, by rw [keeps.start]; exact keeps.walkHeld holds walked, there⟩⟩

/- A slot is a name in a directory, and only slashes follow the name. -/
structure SlotAt (w : World) (path : Pathname) (slot : Slot) (before : List String) (name : String)
    (blanks : List String) (directory : Place) : Prop where
  checked : path.check = .ok ()
  segments : path.segments = before ++ name :: blanks
  blank : ∀ b ∈ blanks, b = ""
  bare : slot.slashed = false → blanks = []
  walked : w.walk (w.start path) before = .ok ⟨directory, true⟩
  inside : w.item? directory = some .directory
  noise : Pathname.isNoise name = false
  down : name ≠ ".."
  short : ¬ nameLimit < name.utf8ByteSize
  place : slot.place = directory ++ [name]

theorem slotOk {slot : Slot} {unnamed : Fault} (ok : w.slot path unnamed = .ok slot) :
    ∃ before name blanks directory, SlotAt w path slot before name blanks directory := by
  simp only [World.slot, bindOk] at ok
  obtain ⟨_, checked, ok⟩ := ok
  split at ok
  · contradiction
  · rename_i name before rest
    simp only [bindOk] at ok
    obtain ⟨directory, walked, other, entered, ok⟩ := ok
    obtain ⟨here, step⟩ := enterOk.mp entered
    have same : other = directory := by
      cases step with
      | stays noise => rfl
      | climbs up => exact absurd up (by decide)
      | descends name => exact absurd name (by decide)
    subst same
    split at ok
    · contradiction
    · rename_i named
      split at ok
      · contradiction
      · rename_i linked
        split at ok
        · contradiction
        · rename_i short
          cases ok
          obtain ⟨place, isLinked⟩ := other
          have linked_ : isLinked = true := by simpa using linked
          subst linked_
          have whole : path.segments = before.reverse ++ name ::
              (path.segments.reverse.takeWhile (· == "")).reverse := by
            have split := List.takeWhile_append_dropWhile (p := (· == ""))
              (l := path.segments.reverse)
            rw [rest] at split
            have turned := congrArg List.reverse split
            simpa using turned.symm
          have blank : ∀ b ∈ (path.segments.reverse.takeWhile (· == "")).reverse, b = "" := by
            intro b member
            simpa using List.all_eq_true.mp List.all_takeWhile b (List.mem_reverse.mp member)
          refine ⟨before.reverse, name, _, place, checked, whole, blank, fun bare => ?_, walked,
            here, ?_, fun up => named (Or.inr up), short, rfl⟩
          · cases last : (path.segments.reverse.takeWhile (· == "")).reverse.getLast? with
            | none => exact List.getLast?_eq_none_iff.mp last
            | some b =>
              have slashed : path.segments.getLast? = some "" := by
                rw [whole, List.getLast?_append, List.getLast?_cons, last,
                  ← blank b (List.mem_of_getLast? last)]
                rfl
              simp [slashed] at bare
          · have some_ : name ≠ "" := by
              intro empty
              have head := List.head_dropWhile_not (p := (· == "")) (l := path.segments.reverse)
              simp [rest, empty] at head
            have dotless : name ≠ "." := fun dot => named (Or.inl dot)
            rw [Pathname.isNoise, beq_false_of_ne some_, beq_false_of_ne dotless]
            rfl

theorem walkBlanks {blanks : List String} (blank : ∀ b ∈ blanks, b = "")
    (here : w.at? position = some .directory) : w.walk position blanks = .ok position := by
  induction blanks with
  | nil => exact walkNil.mpr rfl
  | cons b rest ih =>
    rw [List.forall_mem_cons] at blank
    rw [blank.1]
    exact walkCons.mpr ⟨position, enterOk.mpr ⟨here, .stays rfl⟩, ih blank.2⟩

section
variable {slot : Slot} {before blanks : List String} {name : String} {directory : Place}

theorem SlotAt.nonroot (s : SlotAt w path slot before name blanks directory) : slot.place ≠ [] := by
  rw [s.place]
  simp

/- What is put into a slot is found by its path, a file only if no slash follows the name. -/
theorem SlotAt.find (s : SlotAt w path slot before name blanks directory) (keeps : Keeps w v)
    (held : v.item? slot.place = some item) (fits : item = .directory ∨ slot.slashed = false) :
    v.find path = .ok (⟨slot.place, true⟩, item) := by
  have entered : v.enter ⟨directory, true⟩ name = .ok ⟨slot.place, true⟩ := by
    refine enterOk.mpr ⟨keeps.directories _ s.inside, ?_⟩
    rw [s.place] at held ⊢
    exact .descends s.noise s.down rfl s.short (by rw [held]; rfl)
  have last : v.walk ⟨slot.place, true⟩ blanks = .ok ⟨slot.place, true⟩ := by
    rcases fits with rfl | bare
    · exact walkBlanks s.blank held
    · rw [s.bare bare]
      exact walkNil.mpr rfl
  refine findOk.mpr ⟨s.checked, ?_, held⟩
  rw [s.segments, keeps.start]
  exact walkAppend.mpr ⟨_, keeps.walk s.walked s.inside, walkCons.mpr ⟨_, entered, last⟩⟩

end

end World
end DoubleDispatch.Storage
