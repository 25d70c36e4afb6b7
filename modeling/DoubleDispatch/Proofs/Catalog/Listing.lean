import DoubleDispatch.Catalog.Listing
import DoubleDispatch.Proofs.Catalog.Clashes
import DoubleDispatch.Proofs.Catalog.Rows
import Mathlib.Data.List.Perm.Subperm

/-! Which catalogue files are accepted, and what is said of one that is not. Rows are judged one by
one before any two of them are compared, and the terminals only once the operations stand. -/
namespace DoubleDispatch.Catalog
open Outcome (pureOk bindOk bindError mapMEach mapMError)

/- A place whose terminal stands at an earlier place as well. -/
def RepeatsAt (terminals : List Terminal) (j : Nat) : Prop :=
  ∃ i t, i < j ∧ terminals[i]? = some t ∧ terminals[j]? = some t

/- The first such place, and the one place before it that it repeats. -/
structure RepeatedTerminal (terminals : List Terminal) (t : Terminal) (first second : Nat) :
    Prop where
  before : first < second
  here : terminals[first]? = some t
  again : terminals[second]? = some t
  least : ∀ j, RepeatsAt terminals j → second ≤ j
  only : ∀ i < second, terminals[i]? = some t → i = first

section
variable {terminals : List Terminal} {t u : Terminal} {first second i j : Nat}

theorem RepeatedTerminal.ofFresh (before : i < j) (here : terminals[i]? = some t)
    (again : terminals[j]? = some t) (fresh : (terminals.take j).Nodup) :
    RepeatedTerminal terminals t i j := by
  have apart : ∀ {k l u}, k < j → l < j → terminals[k]? = some u → terminals[l]? = some u →
      k = l := by
    intro k l u first second one other
    rw [← List.getElem?_take_of_lt first] at one
    rw [← List.getElem?_take_of_lt second] at other
    exact (List.getElem?_inj (List.getElem?_eq_some_iff.mp one).1 fresh).mp (one.trans other.symm)
  refine ⟨before, here, again, ?_, fun k small same => apart small before same here⟩
  rintro l ⟨k, u, earlier, one, other⟩
  by_contra early
  have := apart (by omega : k < j) (by omega : l < j) one other
  omega

theorem RepeatedTerminal.unique (one : RepeatedTerminal terminals t first second)
    (other : RepeatedTerminal terminals u i j) : t = u ∧ first = i ∧ second = j := by
  obtain rfl : second = j := Nat.le_antisymm
    (one.least j ⟨i, u, other.before, other.here, other.again⟩)
    (other.least second ⟨first, t, one.before, one.here, one.again⟩)
  obtain rfl : t = u := Option.some.inj (one.again.symm.trans other.again)
  exact ⟨rfl, other.only first one.before one.here, rfl⟩

theorem RepeatedTerminal.notNodup (found : RepeatedTerminal terminals t first second) :
    ¬ terminals.Nodup := by
  intro distinct
  have inside := (List.getElem?_eq_some_iff.mp found.here).1
  have same := (List.getElem?_inj inside distinct).mp (found.here.trans found.again.symm)
  have before := found.before
  omega

end

namespace Terminals

theorem ofListOk {entries : List Terminal} {terminals : Terminals} :
    ofList entries = .ok terminals ↔ terminals.entries = entries := by
  unfold ofList
  constructor
  · intro ok
    split at ok
    · contradiction
    · split at ok
      · contradiction
      · exact (Except.ok.inj ok) ▸ rfl
  · rintro rfl
    rw [dif_neg terminals.nonempty]
    split
    · rename_i repeated
      have fresh : firstRepeat Prod.fst terminals.entries.zipIdx = none :=
        firstRepeatNone.mpr (by simpa using terminals.distinct)
      simp [fresh] at repeated
    · rfl

theorem ofListRepeated {entries : List Terminal} (nonempty : entries ≠ [])
    (clash : ¬ entries.Nodup) : ∃ t first second, RepeatedTerminal entries t first second ∧
      ofList entries = .error (.duplicateTerminal t first second) := by
  unfold ofList
  rw [dif_neg nonempty]
  split
  · rename_i earlier later found
    obtain ⟨i, j, before, first, second, same, fresh⟩ := firstRepeatSome found
    rw [List.getElem?_zipIdx] at first second
    obtain ⟨t, here, rfl⟩ := Option.map_eq_some_iff.mp first
    obtain ⟨u, again, rfl⟩ := Option.map_eq_some_iff.mp second
    obtain rfl : t = u := same
    have apart : (entries.take j).Nodup := by simpa [List.map_take] using fresh
    exact ⟨t, i, j, .ofFresh before here again apart, by simp⟩
  · rename_i fresh
    exact absurd (by simpa using firstRepeatNone.mp fresh) clash

end Terminals

/- The three identifiers that an operation made of the row has. -/
def Row.identifiers (row : Row) : List String :=
  [row.resolvedEnumName, row.name, row.name ++ "Runner"]

theorem Row.Reads.identifiers {row : Row} {op : Operation} (reads : row.Reads op) :
    op.identifiers = row.identifiers := by
  have runner : op.runnerName = op.name.text ++ "Runner" := rfl
  rw [Operation.identifiers, Row.identifiers, runner, reads.name, reads.enumName]

/- The operations are those of the rows, in the same order. -/
abbrev RowsRead (rows : List Row) (entries : List Operation) : Prop :=
  List.Forall₂ (fun row op => Operation.ofRow row = .ok op) rows entries

theorem identifiersRead {rows : List Row} {entries : List Operation} (read : RowsRead rows entries) :
    entries.flatMap Operation.identifiers = rows.flatMap Row.identifiers := by
  induction read with
  | nil => rfl
  | cons first _ ih =>
    rw [List.flatMap_cons, List.flatMap_cons, ih, (Operation.ofRowReads first).identifiers]

theorem rowsRead {rows : List Row} :
    (∃ entries, RowsRead rows entries) ↔ ∀ row ∈ rows, row.Acceptable := by
  induction rows with
  | nil => simp
  | cons row rest ih =>
    rw [List.forall_mem_cons, ← ih, ← Operation.ofRowOk]
    constructor
    · rintro ⟨_, read⟩
      obtain ⟨op, entries, first, others, rfl⟩ := List.forall₂_cons_left_iff.mp read
      exact ⟨⟨op, first⟩, entries, others⟩
    · rintro ⟨⟨op, first⟩, entries, others⟩
      exact ⟨op :: entries, .cons first others⟩

namespace Listing

/- What a file has to be like to be accepted. -/
structure Sound (listing : Listing) : Prop where
  rows : ∀ row ∈ listing.operations, row.Acceptable
  present : listing.operations ≠ []
  apart : (listing.operations.flatMap Row.identifiers).Nodup
  terminals : listing.terminals.Nodup

/- What is said of one that is not. Each case rules out those above it, wherever they stand. -/
inductive Refused (listing : Listing) : Error → Prop where
  | row {before after : List Row} {row : Row} {error : Error}
      (order : listing.operations = before ++ row :: after)
      (valid : ∀ earlier ∈ before, earlier.Acceptable)
      (invalid : Operation.ofRow row = .error error) : Refused listing error
  | empty (absent : listing.operations = []) : Refused listing (.empty .operation)
  | clash {i j : Nat} {identifier : String}
      (valid : ∀ row ∈ listing.operations, row.Acceptable)
      (found : EarliestRepeat (listing.operations.flatMap Row.identifiers) i j)
      (here : (listing.operations.flatMap Row.identifiers)[i]? = some identifier) :
      Refused listing (clashAt identifier i j)
  | terminal {t : Terminal} {first second : Nat}
      (valid : ∀ row ∈ listing.operations, row.Acceptable)
      (present : listing.operations ≠ [])
      (apart : (listing.operations.flatMap Row.identifiers).Nodup)
      (found : RepeatedTerminal listing.terminals t first second) :
      Refused listing (.duplicateTerminal t first second)

variable {listing : Listing} {error : Error}

theorem terminalCatalogOk {terminals : Terminals} :
    listing.terminalCatalog = .ok terminals ↔ terminals.entries =
      if listing.terminals = [] then Terminals.reference.entries else listing.terminals := by
  unfold terminalCatalog
  split
  · rw [Except.ok.injEq, Terminals.mk.injEq, eq_comm]
  · exact Terminals.ofListOk

theorem terminalCatalogRefused (clash : ¬ listing.terminals.Nodup) : ∃ t first second,
    RepeatedTerminal listing.terminals t first second ∧
      listing.terminalCatalog = .error (.duplicateTerminal t first second) := by
  have nonempty : listing.terminals ≠ [] := by
    intro none
    exact clash (none ▸ List.nodup_nil)
  rw [terminalCatalog, if_neg nonempty]
  exact Terminals.ofListRepeated nonempty clash

theorem terminalCatalogMade (distinct : listing.terminals.Nodup) :
    ∃ terminals, listing.terminalCatalog = .ok terminals := by
  by_cases none : listing.terminals = []
  · exact ⟨.reference, by rw [terminalCatalog, if_pos none]⟩
  · exact ⟨⟨listing.terminals, none, distinct⟩, terminalCatalogOk.mpr (by rw [if_neg none])⟩

theorem catalogsOk {ops : Operations} {terminals : Terminals} :
    listing.catalogs = .ok (ops, terminals) ↔
      RowsRead listing.operations ops.entries ∧ listing.terminalCatalog = .ok terminals := by
  simp only [catalogs, bindOk, pureOk, Operations.ofRowsOk, mapMEach, Prod.mk.injEq]
  constructor
  · rintro ⟨_, read, _, chosen, rfl, rfl⟩
    exact ⟨read, chosen⟩
  · rintro ⟨read, chosen⟩
    exact ⟨_, read, _, chosen, rfl, rfl⟩

theorem soundAccepted (sound : listing.Sound) : ∃ made, listing.catalogs = .ok made := by
  obtain ⟨entries, read⟩ := rowsRead.mpr sound.rows
  have present : entries ≠ [] := by
    rintro rfl
    exact sound.present (List.forall₂_nil_right_iff.mp read)
  obtain ⟨terminals, chosen⟩ := terminalCatalogMade sound.terminals
  exact ⟨(⟨entries, present, identifiersRead read ▸ sound.apart⟩, terminals),
    catalogsOk.mpr ⟨read, chosen⟩⟩

theorem acceptedSound {made : Operations × Terminals} (ok : listing.catalogs = .ok made) :
    listing.Sound := by
  obtain ⟨ops, terminals⟩ := made
  obtain ⟨read, chosen⟩ := catalogsOk.mp ok
  refine ⟨rowsRead.mp ⟨_, read⟩, ?_, identifiersRead read ▸ ops.distinct, ?_⟩
  · intro absent
    rw [absent] at read
    exact ops.nonempty (List.forall₂_nil_left_iff.mp read)
  · by_contra clash
    obtain ⟨t, first, second, _, refused⟩ := terminalCatalogRefused clash
    rw [refused] at chosen
    contradiction

/- The checks in their order: a row, no rows, a clash of operations, a repeated terminal. -/
theorem catalogsError : listing.catalogs = .error error ↔
    listing.operations.mapM Operation.ofRow = .error error ∨
    ∃ entries, RowsRead listing.operations entries ∧
      (Operations.ofList entries = .error error ∨
        ∃ ops, Operations.ofList entries = .ok ops ∧ listing.terminalCatalog = .error error) := by
  have never : ∀ made : Operations × Terminals, (pure made : Except Error _) ≠ .error error := by
    intro made same
    cases same
  simp only [catalogs, Operations.ofRows, bindError, bindOk, mapMEach, never, and_false,
    exists_false, or_false]
  constructor
  · rintro ((unread | ⟨entries, read, clash⟩) | ⟨ops, ⟨entries, read, made⟩, refused⟩)
    · exact .inl unread
    · exact .inr ⟨entries, read, .inl clash⟩
    · exact .inr ⟨entries, read, .inr ⟨ops, made, refused⟩⟩
  · rintro (unread | ⟨entries, read, clash | ⟨ops, made, refused⟩⟩)
    · exact .inl (.inl unread)
    · exact .inl (.inr ⟨entries, read, clash⟩)
    · exact .inr ⟨ops, ⟨entries, read, made⟩, refused⟩

theorem Refused.reported (refused : listing.Refused error) : listing.catalogs = .error error := by
  rw [catalogsError]
  cases refused with
  | row order valid invalid =>
    obtain ⟨entries, read⟩ := rowsRead.mpr valid
    exact .inl (mapMError.mpr ⟨_, _, _, entries, order, read, invalid⟩)
  | empty absent =>
    exact .inr ⟨[], by rw [absent]; exact .nil, .inl rfl⟩
  | clash valid found here =>
    obtain ⟨entries, read⟩ := rowsRead.mpr valid
    rw [← identifiersRead read] at found here
    have repeated := found.notNodup
    have present : entries ≠ [] := by
      rintro rfl
      exact repeated List.nodup_nil
    obtain ⟨k, l, identifier, other, there, failed⟩ := Operations.ofListRefused present repeated
    obtain ⟨rfl, rfl⟩ := found.unique other
    cases Option.some.inj (here.symm.trans there)
    exact .inr ⟨entries, read, .inl failed⟩
  | terminal valid present apart found =>
    obtain ⟨entries, read⟩ := rowsRead.mpr valid
    have nonempty : entries ≠ [] := by
      rintro rfl
      exact present (List.forall₂_nil_right_iff.mp read)
    obtain ⟨ops, made⟩ := Operations.ofListAccepts.mpr ⟨nonempty, identifiersRead read ▸ apart⟩
    obtain ⟨t, first, second, other, failed⟩ := terminalCatalogRefused found.notNodup
    obtain ⟨rfl, rfl, rfl⟩ := found.unique other
    exact .inr ⟨entries, read, .inr ⟨ops, made, failed⟩⟩

theorem Refused.ofReported (failed : listing.catalogs = .error error) : listing.Refused error := by
  rcases catalogsError.mp failed with unread | ⟨entries, read, clash | ⟨ops, made, refused⟩⟩
  · obtain ⟨before, row, after, entries, order, read, invalid⟩ := mapMError.mp unread
    exact .row order (rowsRead.mp ⟨entries, read⟩) invalid
  · by_cases absent : entries = []
    · subst absent
      cases clash
      exact .empty (List.forall₂_nil_right_iff.mp read)
    · have repeated : ¬ (entries.flatMap Operation.identifiers).Nodup := by
        intro distinct
        obtain ⟨ops, made⟩ := Operations.ofListAccepts.mpr ⟨absent, distinct⟩
        rw [made] at clash
        contradiction
      obtain ⟨i, j, identifier, found, here, reported⟩ := Operations.ofListRefused absent repeated
      cases Except.error.inj (clash.symm.trans reported)
      rw [identifiersRead read] at found here
      exact .clash (rowsRead.mp ⟨entries, read⟩) found here
  · obtain ⟨nonempty, distinct⟩ := Operations.ofListAccepts.mp ⟨ops, made⟩
    have repeated : ¬ listing.terminals.Nodup := by
      intro apart
      obtain ⟨terminals, chosen⟩ := terminalCatalogMade apart
      rw [chosen] at refused
      contradiction
    obtain ⟨t, first, second, found, reported⟩ := terminalCatalogRefused repeated
    cases Except.error.inj (refused.symm.trans reported)
    have present : listing.operations ≠ [] := by
      intro none
      rw [none] at read
      exact nonempty (List.forall₂_nil_left_iff.mp read)
    exact .terminal (rowsRead.mp ⟨entries, read⟩) present (identifiersRead read ▸ distinct) found

theorem crowdedRepeats (crowd : Terminal.all.length < listing.terminals.length) :
    ¬ listing.terminals.Nodup := by
  intro distinct
  have within := (distinct.subperm fun t _ => t.memAll).length_le
  omega

theorem listingsJudged (listing : Listing) :
    ((∃ made, listing.catalogs = .ok made) ↔ listing.Sound) ∧
    (∀ ops terminals, listing.catalogs = .ok (ops, terminals) →
      RowsRead listing.operations ops.entries ∧
      terminals.entries =
        if listing.terminals = [] then Terminals.reference.entries else listing.terminals) ∧
    (∀ error, listing.catalogs = .error error ↔ listing.Refused error) ∧
    (¬ listing.Sound → ∃! error, listing.Refused error) ∧
    Terminal.all.Nodup ∧ (∀ t, t ∈ Terminal.all) ∧
    (Terminal.all.length < listing.terminals.length →
      ∃ error, listing.catalogs = .error error) := by
  have failed : ¬ listing.Sound → ∃ error, listing.catalogs = .error error := by
    intro unsound
    cases result : listing.catalogs with
    | ok made => exact absurd (acceptedSound result) unsound
    | error error => exact ⟨error, rfl⟩
  refine ⟨⟨fun ⟨_, ok⟩ => acceptedSound ok, soundAccepted⟩, ?_, fun error =>
    ⟨Refused.ofReported, Refused.reported⟩, ?_, by decide, Terminal.memAll, ?_⟩
  · intro ops terminals ok
    obtain ⟨read, chosen⟩ := catalogsOk.mp ok
    exact ⟨read, terminalCatalogOk.mp chosen⟩
  · intro unsound
    obtain ⟨error, reported⟩ := failed unsound
    refine ⟨error, .ofReported reported, fun other refused => ?_⟩
    exact Except.error.inj (refused.reported.symm.trans reported)
  · intro crowd
    exact failed fun sound => crowdedRepeats crowd sound.terminals

/- The first two rows have one name and the terminals are too many, but the third row cannot be an
operation, and it speaks first. -/
def lateRow : Listing where
  operations := [.placeholderUnary "ABS", .placeholderUnary "ABS", .placeholderUnary "9"]
  terminals := Terminal.all ++ [⟨.real, .scalar⟩]

/- Two terminals stand twice; the one whose second place comes first is named. -/
def twoRepeats : Listing where
  operations := smallRows
  terminals := [⟨.real, .scalar⟩, ⟨.complex, .scalar⟩, ⟨.complex, .scalar⟩, ⟨.real, .scalar⟩]

theorem lateRowReported :
    ¬ lateRow.Sound ∧ ¬ twoRepeats.Sound ∧
    (∃! error, lateRow.Refused error) ∧ (∃! error, twoRepeats.Refused error) ∧
    Terminal.all.length < lateRow.terminals.length ∧ (∃ error, lateRow.catalogs = .error error) ∧
    lateRow.Refused (.invalidIdentifier "9" .name "9" .notIdentifier) ∧
    twoRepeats.Refused (.duplicateTerminal ⟨.complex, .scalar⟩ 1 2) ∧
    ∃ made, { twoRepeats with terminals := [] }.catalogs = .ok made ∧
      made.2.entries = Terminals.reference.entries := by
  obtain ⟨lateAccepts, _, lateReports, lateOne, _, _, lateCrowded⟩ := listingsJudged lateRow
  obtain ⟨twoAccepts, _, twoReports, twoOne, _⟩ := listingsJudged twoRepeats
  have late : lateRow.catalogs = .error (.invalidIdentifier "9" .name "9" .notIdentifier) := by rfl
  have two : twoRepeats.catalogs = .error (.duplicateTerminal ⟨.complex, .scalar⟩ 1 2) := by rfl
  have lateUnsound : ¬ lateRow.Sound := by
    intro sound
    obtain ⟨made, ok⟩ := lateAccepts.mpr sound
    rw [late] at ok
    contradiction
  have twoUnsound : ¬ twoRepeats.Sound := by
    intro sound
    obtain ⟨made, ok⟩ := twoAccepts.mpr sound
    rw [two] at ok
    contradiction
  have plain : { twoRepeats with terminals := [] }.catalogs = .ok (smallCatalog, .reference) := by
    rfl
  have crowd : Terminal.all.length < lateRow.terminals.length := by decide
  exact ⟨lateUnsound, twoUnsound, lateOne lateUnsound, twoOne twoUnsound, crowd, lateCrowded crowd,
    (lateReports _).mp late, (twoReports _).mp two, _, plain,
    ((listingsJudged _).2.1 _ _ plain).2⟩

end Listing
end DoubleDispatch.Catalog
