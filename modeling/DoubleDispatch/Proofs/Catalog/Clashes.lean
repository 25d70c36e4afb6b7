import DoubleDispatch.Proofs.Catalog.Operations

/-! Which clash is reported. The three identifiers of every entry are laid out in one row, and the
first of them that an earlier one equals decides the error: by what the two are, and whose. -/
namespace DoubleDispatch.Catalog

section
variable {α β : Type} [DecidableEq β]

theorem firstRepeatAfterSome {key : α → β} {seen xs : List α} {earlier later : α}
    (found : firstRepeatAfter key seen xs = some (earlier, later))
    (fresh : (seen.map key).Nodup) :
    ∃ i j, i < j ∧ (seen ++ xs)[i]? = some earlier ∧ (seen ++ xs)[j]? = some later ∧
      key earlier = key later ∧ (((seen ++ xs).take j).map key).Nodup := by
  induction xs generalizing seen with
  | nil => simp [firstRepeatAfter] at found
  | cons x rest ih =>
    simp only [firstRepeatAfter] at found
    cases hit : seen.find? (fun y => key y = key x) with
    | some y =>
      simp only [hit, Option.some.injEq, Prod.mk.injEq] at found
      obtain ⟨rfl, rfl⟩ := found
      obtain ⟨i, small, place⟩ := List.mem_iff_getElem.mp (List.mem_of_find?_eq_some hit)
      refine ⟨i, seen.length, small, ?_, by simp, by simpa using List.find?_some hit, ?_⟩
      · rw [List.getElem?_append_left small, List.getElem?_eq_getElem small, place]
      · rwa [List.take_left]
    | none =>
      simp only [hit] at found
      have grown : ((seen ++ [x]).map key).Nodup :=
        (firstRepeatAfterNone fresh).mp (by simp [firstRepeatAfter, hit])
      simpa using ih found grown

theorem firstRepeatSome {key : α → β} {xs : List α} {earlier later : α}
    (found : firstRepeat key xs = some (earlier, later)) :
    ∃ i j, i < j ∧ xs[i]? = some earlier ∧ xs[j]? = some later ∧ key earlier = key later ∧
      ((xs.take j).map key).Nodup := by
  simpa using firstRepeatAfterSome found (by simp)

end

/- The identifier at the later place equals the one at the earlier, and no two before it agree. -/
structure EarliestRepeat (identifiers : List String) (i j : Nat) : Prop where
  before : i < j
  inside : j < identifiers.length
  same : identifiers[i]? = identifiers[j]?
  fresh : (identifiers.take j).Nodup

namespace EarliestRepeat

variable {identifiers : List String} {i j k l : Nat}

/- Up to the place of one repeat no two agree, so the other lies no earlier. -/
theorem notLater (one : EarliestRepeat identifiers i j) (other : EarliestRepeat identifiers k l) :
    l ≤ j := by
  by_contra late
  have before := one.before
  have inside : i < (identifiers.take l).length := by
    have := other.inside
    rw [List.length_take]
    omega
  have same : (identifiers.take l)[i]? = (identifiers.take l)[j]? := by
    rw [List.getElem?_take_of_lt (by omega), List.getElem?_take_of_lt (by omega), one.same]
  have equal := (List.getElem?_inj inside other.fresh).mp same
  omega

theorem unique (one : EarliestRepeat identifiers i j) (other : EarliestRepeat identifiers k l) :
    i = k ∧ j = l := by
  obtain rfl : j = l := Nat.le_antisymm (other.notLater one) (one.notLater other)
  have before := one.before
  have inside : i < (identifiers.take j).length := by
    have := one.inside
    rw [List.length_take]
    omega
  have same : (identifiers.take j)[i]? = (identifiers.take j)[k]? := by
    rw [List.getElem?_take_of_lt one.before, List.getElem?_take_of_lt other.before, one.same,
      other.same]
  exact ⟨(List.getElem?_inj inside one.fresh).mp same, rfl⟩

theorem notNodup (found : EarliestRepeat identifiers i j) : ¬ identifiers.Nodup := by
  intro distinct
  have before := found.before
  have inside : i < identifiers.length := by
    have := found.inside
    omega
  have equal := (List.getElem?_inj inside distinct).mp found.same
  omega

end EarliestRepeat

/- Among the identifiers of an entry the enumeration name stands first and the runner last. -/
def Role.at : Nat → Role
  | 0 => .enumName
  | 1 => .name
  | _ => .runner

theorem marksAt (entries : List Operation) (n : Nat) :
    (marks entries)[n]? = ((entries.flatMap Operation.identifiers)[n]?).map
      fun identifier => Mark.mk (Role.at (n % 3)) identifier (n / 3) := by
  have general : ∀ start n, ((entries.zipIdx start).flatMap
      (fun entry => entry.1.marks entry.2))[n]? =
      ((entries.flatMap Operation.identifiers)[n]?).map
        fun identifier => Mark.mk (Role.at (n % 3)) identifier (start + n / 3) := by
    induction entries with
    | nil => simp
    | cons op rest ih =>
      intro start n
      rw [List.zipIdx_cons, List.flatMap_cons, List.flatMap_cons]
      match n with
      | 0 | 1 | 2 => simp [Operation.marks, Operation.identifiers, Role.at]
      | n + 3 =>
        have position : start + 1 + n / 3 = start + (n + 3) / 3 := by omega
        have role : (n + 3) % 3 = n % 3 := by omega
        have step := ih (start + 1) n
        rw [position, ← role] at step
        simpa [Operation.marks, Operation.identifiers] using step
  simpa [marks] using general 0 n

/- The three places of an entry. -/
theorem identifierAt (entries : List Operation) (n : Nat) :
    (entries.flatMap Operation.identifiers)[n]? = (entries[n / 3]?).bind
      fun op => op.identifiers[n % 3]? := by
  induction entries generalizing n with
  | nil => simp
  | cons op rest ih =>
    rw [List.flatMap_cons]
    match n with
    | 0 | 1 | 2 => simp [Operation.identifiers]
    | n + 3 =>
      have position : (n + 3) / 3 = n / 3 + 1 := by omega
      have role : (n + 3) % 3 = n % 3 := by omega
      rw [position, role, List.getElem?_cons_succ, ← ih n]
      simp [Operation.identifiers]

/- The error for two places of the row that hold the same identifier. -/
def clashAt (identifier : String) (i j : Nat) : Error :=
  if i % 3 = 0 ∧ j % 3 = 0 then .duplicateEnumName identifier (i / 3) (j / 3)
  else if i % 3 = 1 ∧ j % 3 = 1 then .duplicateName identifier (i / 3) (j / 3)
  else .identifierClash identifier (i / 3) (j / 3)

theorem clashOfMarks (identifier : String) (i j : Nat) :
    (Mark.mk (Role.at (i % 3)) identifier (i / 3)).clash
      (Mark.mk (Role.at (j % 3)) identifier (j / 3)) = clashAt identifier i j := by
  have first : i % 3 = 0 ∨ i % 3 = 1 ∨ i % 3 = 2 := by omega
  have second : j % 3 = 0 ∨ j % 3 = 1 ∨ j % 3 = 2 := by omega
  rcases first with a | a | a <;> rcases second with b | b | b <;>
    simp [clashAt, Mark.clash, Role.at, a, b]

theorem Operation.runnerLonger (op : Operation) : op.name.text ≠ op.runnerName := by
  intro same
  have lengths := congrArg String.length same
  simp [runnerName, runner, Text.Identifier.extend] at lengths

theorem Operation.nameOfRunner {a b : Operation} (same : a.runnerName = b.runnerName) :
    a.name.text = b.name.text := by
  have chars := congrArg String.toList same
  simp only [runnerName, runner, Text.Identifier.extend, String.toList_append] at chars
  exact String.toList_inj.mp (List.append_cancel_right chars)

section
variable {entries : List Operation} {i j : Nat}

theorem repeatEntries (found : EarliestRepeat (entries.flatMap Operation.identifiers) i j) :
    ∃ a b, entries[i / 3]? = some a ∧ entries[j / 3]? = some b ∧
      a.identifiers[i % 3]? = b.identifiers[j % 3]? := by
  have inside := found.inside
  have place : ∀ n, n < (entries.flatMap Operation.identifiers).length →
      ∃ op, entries[n / 3]? = some op := by
    intro n small
    have some_ := List.getElem?_eq_getElem small
    rw [identifierAt] at some_
    obtain ⟨op, here, _⟩ := Option.bind_eq_some_iff.mp some_
    exact ⟨op, here⟩
  obtain ⟨a, first⟩ := place i (by have := found.before; omega)
  obtain ⟨b, second⟩ := place j inside
  have same := found.same
  rw [identifierAt, identifierAt, first, second] at same
  exact ⟨a, b, first, second, same⟩

/- Within one entry only the enumeration name can equal another identifier: the runner. -/
theorem repeatWithin (found : EarliestRepeat (entries.flatMap Operation.identifiers) i j)
    (one : i / 3 = j / 3) :
    ∃ op, entries[i / 3]? = some op ∧ op.enumName.text = op.runnerName := by
  obtain ⟨a, b, first, second, same⟩ := repeatEntries found
  rw [← one, first, Option.some.injEq] at second
  subst second
  have before := found.before
  have places : i % 3 = 0 ∧ j % 3 = 1 ∨ i % 3 = 0 ∧ j % 3 = 2 ∨ i % 3 = 1 ∧ j % 3 = 2 := by omega
  rcases places with ⟨l, r⟩ | ⟨l, r⟩ | ⟨l, r⟩ <;>
    simp only [Operation.identifiers, l, r, List.getElem?_cons_zero, List.getElem?_cons_succ,
      Option.some.injEq] at same
  · exact absurd same a.distinct
  · exact ⟨a, first, same⟩
  · exact absurd same a.runnerLonger

/- Equal runners have equal names, and those stand before them. -/
theorem repeatNotRunners (found : EarliestRepeat (entries.flatMap Operation.identifiers) i j) :
    ¬ (i % 3 = 2 ∧ j % 3 = 2) := by
  rintro ⟨l, r⟩
  obtain ⟨a, b, first, second, same⟩ := repeatEntries found
  simp only [Operation.identifiers, l, r, List.getElem?_cons_zero, List.getElem?_cons_succ,
    Option.some.injEq] at same
  have before := found.before
  have inside := found.inside
  have names : (entries.flatMap Operation.identifiers)[i - 1]? =
      (entries.flatMap Operation.identifiers)[j - 1]? := by
    have place : (i - 1) / 3 = i / 3 ∧ (i - 1) % 3 = 1 ∧ (j - 1) / 3 = j / 3 ∧ (j - 1) % 3 = 1 := by
      omega
    rw [identifierAt, identifierAt, place.1, place.2.1, place.2.2.1, place.2.2.2, first, second]
    simp [Operation.identifiers, Operation.nameOfRunner same]
  rw [← List.getElem?_take_of_lt (by omega : i - 1 < j),
    ← List.getElem?_take_of_lt (by omega : j - 1 < j)] at names
  have small : i - 1 < ((entries.flatMap Operation.identifiers).take j).length := by
    rw [List.length_take]
    omega
  have equal := (List.getElem?_inj small found.fresh).mp names
  omega

end

namespace Operations

theorem ofListAccepts {entries : List Operation} : (∃ ops, ofList entries = .ok ops) ↔
    entries ≠ [] ∧ (entries.flatMap Operation.identifiers).Nodup := by
  simp only [ofListOk]
  constructor
  · rintro ⟨ops, rfl⟩
    exact ⟨ops.nonempty, ops.distinct⟩
  · rintro ⟨nonempty, distinct⟩
    exact ⟨⟨entries, nonempty, distinct⟩, rfl⟩

theorem ofListRefused {entries : List Operation} (nonempty : entries ≠ [])
    (clash : ¬ (entries.flatMap Operation.identifiers).Nodup) :
    ∃ i j identifier, EarliestRepeat (entries.flatMap Operation.identifiers) i j ∧
      (entries.flatMap Operation.identifiers)[i]? = some identifier ∧
      ofList entries = .error (clashAt identifier i j) := by
  unfold ofList
  rw [dif_neg nonempty]
  split
  · rename_i earlier later found
    obtain ⟨i, j, before, first, second, same, fresh⟩ := firstRepeatSome found
    rw [marksAt] at first second
    obtain ⟨identifier, here, rfl⟩ := Option.map_eq_some_iff.mp first
    obtain ⟨other, there, rfl⟩ := Option.map_eq_some_iff.mp second
    obtain rfl : identifier = other := same
    refine ⟨i, j, identifier, ⟨before, (List.getElem?_eq_some_iff.mp there).1, ?_, ?_⟩, here, ?_⟩
    · rw [here, there]
    · rwa [List.map_take, marksIdentifiers] at fresh
    · rw [clashOfMarks]
  · rename_i fresh
    exact absurd (marksIdentifiers entries ▸ firstRepeatNone.mp fresh) clash

theorem firstClashReported (entries : List Operation) :
    ((∃ ops, ofList entries = .ok ops) ↔
      entries ≠ [] ∧ (entries.flatMap Operation.identifiers).Nodup) ∧
    (∀ ops, ofList entries = .ok ops → ops.entries = entries) ∧
    (entries = [] → ofList entries = .error (.empty .operation)) ∧
    (entries ≠ [] → ¬ (entries.flatMap Operation.identifiers).Nodup →
      ∃ i j, EarliestRepeat (entries.flatMap Operation.identifiers) i j) ∧
    ∀ i j, EarliestRepeat (entries.flatMap Operation.identifiers) i j →
      (∃ identifier, (entries.flatMap Operation.identifiers)[i]? = some identifier ∧
        (entries.flatMap Operation.identifiers)[j]? = some identifier ∧
        ofList entries = .error (clashAt identifier i j)) ∧
      i / 3 ≤ j / 3 ∧
      (i / 3 = j / 3 → ∃ op, entries[i / 3]? = some op ∧ op.enumName.text = op.runnerName) ∧
      ¬ (i % 3 = 2 ∧ j % 3 = 2) := by
  refine ⟨ofListAccepts, fun _ ok => ofListOk.mp ok, ?_, ?_, ?_⟩
  · rintro rfl
    rfl
  · intro nonempty clash
    obtain ⟨i, j, _, found, _⟩ := ofListRefused nonempty clash
    exact ⟨i, j, found⟩
  · intro i j found
    have before := found.before
    have clash := found.notNodup
    have nonempty : entries ≠ [] := by
      rintro rfl
      exact clash List.nodup_nil
    obtain ⟨k, l, identifier, other, here, refused⟩ := ofListRefused nonempty clash
    obtain ⟨rfl, rfl⟩ := found.unique other
    exact ⟨⟨identifier, here, found.same ▸ here, refused⟩, by omega, repeatWithin found,
      repeatNotRunners found⟩

/- The second entry takes its own runner for its enumeration name. -/
def ownRunnerEntries : List Operation :=
  [⟨⟨"P", by decide⟩, ⟨"P_ENUM", by decide⟩, by decide, .placeholderUnary⟩,
   ⟨⟨"Q", by decide⟩, ⟨"QRunner", by decide⟩, by decide, .placeholderUnary⟩]

theorem ownRunnerReported :
    EarliestRepeat (ownRunnerEntries.flatMap Operation.identifiers) 3 5 ∧
    ofList ownRunnerEntries = .error (.identifierClash "QRunner" 1 1) ∧
    ∃ op, ownRunnerEntries[1]? = some op ∧ op.enumName.text = op.runnerName := by
  have found : EarliestRepeat (ownRunnerEntries.flatMap Operation.identifiers) 3 5 :=
    ⟨by decide, by decide, by decide, by decide⟩
  obtain ⟨_, _, _, _, reported⟩ := firstClashReported ownRunnerEntries
  obtain ⟨⟨_, here, _, refused⟩, _, own, _⟩ := reported 3 5 found
  cases Option.some.inj here
  exact ⟨found, refused, own rfl⟩

end Operations
end DoubleDispatch.Catalog
