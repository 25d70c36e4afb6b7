import DoubleDispatch.Proofs.Storage.Places
import DoubleDispatch.Proofs.Storage.Pathnames
import Mathlib.Data.List.DropRight

/-! The way up from a path. Every parent is fewer steps from the top, so the ancestors of a path are
the path itself and the ancestors of its parent, and nothing is left out at the top. What has no
parent is the root or no path at all, and neither is a file. -/
namespace DoubleDispatch.Storage
namespace Pathname

variable {path parent : Pathname}

/- How often a parent can be taken. -/
def steps (path : Pathname) : Nat :=
  path.backwards.2.length + if path.backwards.1 = "" then 0 else 1

theorem backwardsParts {first : String} {rest : List String} (whole : path.segments = first :: rest) :
    path.backwards = (first, rest.reverse.dropWhile isNoise) := by
  rw [backwards, whole]

theorem stepsParts {first : String} {later : List String} (split : path.backwards = (first, later)) :
    path.steps = later.length + if first = "" then 0 else 1 := by
  rw [steps, split]

theorem stepsWithin (path : Pathname) : path.steps ≤ path.segments.length := by
  cases whole : path.segments with
  | nil => exact absurd whole path.segmentsSome
  | cons first rest =>
    have kept := (List.dropWhile_sublist isNoise (l := rest.reverse)).length_le
    rw [List.length_reverse] at kept
    rw [stepsParts (backwardsParts whole), List.length_cons]
    split <;> omega

/- The later segments of a parent are those before the last one that names something. -/
theorem parentBackwards {first last : String} {before : List String}
    (split : path.backwards = (first, last :: before)) (found : path.parent? = some parent) :
    parent.backwards = (first, before.dropWhile isNoise) := by
  have same : ofSegments (first :: (before.dropWhile isNoise).reverse) = parent := by
    simpa [parent?, split] using found
  have free : ∀ s ∈ first :: (before.dropWhile isNoise).reverse, '/' ∉ s.toList := by
    cases whole : path.segments with
    | nil => exact absurd whole path.segmentsSome
    | cons start rest =>
      rw [backwardsParts whole] at split
      obtain ⟨rfl, named⟩ := Prod.mk.inj split
      have inside : (before.dropWhile isNoise).Sublist rest.reverse :=
        (List.dropWhile_sublist isNoise).trans
          ((List.sublist_cons_self last before).trans (named ▸ List.dropWhile_sublist isNoise))
      intro s member
      refine path.segmentsFree s ?_
      rw [whole]
      rcases List.mem_cons.mp member with rfl | later
      · exact List.mem_cons_self
      · exact List.mem_cons_of_mem _ (List.mem_reverse.mp (inside.mem (List.mem_reverse.mp later)))
  have segments := segmentsOfSegments free
  rw [same] at segments
  split at segments
  · rename_i root
    have none : before.dropWhile isNoise = [] := List.reverse_eq_nil_iff.mp root.2
    rw [backwardsParts segments, root.1, none]
    rfl
  · rw [backwardsParts segments, List.reverse_reverse, List.dropWhile_idempotent]

theorem parentNearer (found : path.parent? = some parent) : parent.steps < path.steps := by
  cases split : path.backwards with
  | mk first later =>
    cases later with
    | nil =>
      have named : first ≠ "" ∧ ⟨""⟩ = parent := by simpa [parent?, split] using found
      have bottom : steps ⟨""⟩ = 0 := by decide
      rw [← named.2, bottom, stepsParts split, if_neg named.1]
      exact Nat.succ_pos _
    | cons last before =>
      have kept := (List.dropWhile_sublist isNoise (l := before)).length_le
      rw [stepsParts split, stepsParts (parentBackwards split found), List.length_cons]
      omega

theorem topParent (top : path.steps = 0) : path.parent? = none := by
  cases found : path.parent? with
  | none => rfl
  | some parent =>
    have nearer := parentNearer found
    omega

/- Once the bound allows for all steps, a larger one adds nothing. -/
theorem ancestorsBound {bound other : Nat} (enough : path.steps ≤ bound) (also : path.steps ≤ other) :
    ancestorsWithin bound path = ancestorsWithin other path := by
  induction bound generalizing path other with
  | zero =>
    have top := topParent (Nat.le_zero.mp enough)
    cases other with
    | zero => rfl
    | succ other => simp [ancestorsWithin, top]
  | succ bound ih =>
    cases found : path.parent? with
    | none => cases other <;> simp [ancestorsWithin, found]
    | some parent =>
      have nearer := parentNearer found
      cases other with
      | zero => omega
      | succ other =>
        have rest : ancestorsWithin bound parent = ancestorsWithin other parent :=
          ih (by omega) (by omega)
        simp [ancestorsWithin, found, rest]

theorem ancestorsUp (path : Pathname) : path.ancestors =
    path :: match path.parent? with
      | some parent => parent.ancestors
      | none => [] := by
  have within := path.stepsWithin
  cases bound : path.segments.length with
  | zero => exact absurd (List.length_eq_zero_iff.mp bound) path.segmentsSome
  | succ bound' =>
    rw [ancestors, bound, ancestorsWithin]
    cases found : path.parent? with
    | none => rfl
    | some parent =>
      have nearer := parentNearer found
      exact congrArg _ (ancestorsBound (by omega) parent.stepsWithin)

/- Without a parent a path has no segment that names anything. -/
theorem topNoise (top : path.parent? = none) : ∀ s ∈ path.segments, isNoise s = true := by
  cases whole : path.segments with
  | nil => exact List.forall_mem_nil _
  | cons first rest =>
    cases later : rest.reverse.dropWhile isNoise with
    | cons last before => simp [parent?, backwardsParts whole, later] at top
    | nil =>
      have unnamed : first = "" := by
        by_contra named
        simp [parent?, backwardsParts whole, later, named] at top
      have blank := List.dropWhile_eq_nil_iff.mp later
      refine List.forall_mem_cons.mpr ⟨by rw [unnamed]; rfl, fun s member => ?_⟩
      exact blank s (List.mem_reverse.mpr member)

end Pathname

namespace World

variable {world : World} {path : Pathname}

theorem walkNoise {position : Position} {segments : List String}
    (noise : ∀ s ∈ segments, Pathname.isNoise s = true)
    (here : world.at? position = some .directory) : world.walk position segments = .ok position := by
  induction segments with
  | nil => exact walkNil.mpr rfl
  | cons s rest ih =>
    obtain ⟨first, later⟩ := List.forall_mem_cons.mp noise
    exact walkCons.mpr ⟨position, enterOk.mpr ⟨here, .stays first⟩, ih later⟩

/- A path without a parent leads nowhere else than to a directory. -/
theorem readNamed {text : String} (read : world.readText path = .ok text) : path.parent? ≠ none := by
  intro top
  have noise := Pathname.topNoise top
  obtain ⟨⟨position, item⟩, found, held⟩ := Outcome.bindOk.mp read
  cases item with
  | directory => contradiction
  | file content =>
    obtain ⟨_, walked, file⟩ := findOk.mp found
    cases whole : path.segments with
    | nil => exact path.segmentsSome whole
    | cons first rest =>
      have begun := walked
      rw [whole] at begun
      obtain ⟨_, entered, _⟩ := walkCons.mp begun
      have here := (enterOk.mp entered).1
      rw [walkNoise noise here] at walked
      cases walked
      rw [here] at file
      cases file

end World
end DoubleDispatch.Storage
