import DoubleDispatch.Catalog.Listing
import DoubleDispatch.Proofs.Catalog.History
import DoubleDispatch.Proofs.Emit.Generator

/-! Whether two catalogues fit together. They do exactly when every terminal type that an overload
takes is there; else the first operation that lacks one is named, with the first that it lacks. The
overloads, and the operands of each, are looked through in their order. -/
namespace DoubleDispatch.Emit
open Catalog (Category Operation Operations Terminal Terminals Listing smallCatalog)
open Outcome (bindOk)

def Supplied (terminals : Terminals) (op : Operation) : Prop :=
  ∀ overload ∈ overloads op.category, ∀ t ∈ overload.operands, t ∈ terminals.entries

/- The terminal is not there, and all that are looked for before it are: those of the overloads
before, and of this one the operands to its left. -/
structure Lacks (terminals : Terminals) (op : Operation) (t : Terminal) : Prop where
  absent : t ∉ terminals.entries
  first : ∃ before overload after left right,
    overloads op.category = before ++ overload :: after ∧ overload.operands = left ++ t :: right ∧
    (∀ earlier ∈ before, ∀ u ∈ earlier.operands, u ∈ terminals.entries) ∧
    ∀ u ∈ left, u ∈ terminals.entries

/- The first operation that lacks a terminal. -/
def FirstLack (terminals : Terminals) (entries : List Operation) (op : Operation) (t : Terminal) :
    Prop :=
  ∃ before after, entries = before ++ op :: after ∧
    (∀ earlier ∈ before, Supplied terminals earlier) ∧ Lacks terminals op t

def isPlaceholder : Category → Bool
  | .placeholderUnary | .placeholderBinary => true
  | _ => false

/- Operations that are only declared, and those that are written elsewhere. -/
def unwritten (op : Operation) : Bool := isPlaceholder op.category || op.category.isExternal

section
variable {ops : Operations} {terminals : Terminals} {op : Operation} {t : Terminal}

/- One overload after the other is looked through. -/
theorem missingEach : missingTerminal? terminals op = (overloads op.category).findSome?
    fun overload => overload.operands.find? (fun t => !terminals.contains t) :=
  List.find?_flatMap

theorem operandsThere {operands : List Terminal} :
    operands.find? (fun t => !terminals.contains t) = none ↔
      ∀ t ∈ operands, t ∈ terminals.entries := by
  simp only [List.find?_eq_none, Bool.not_eq_true, Bool.not_eq_false', Terminals.containsIff]

theorem operandMissing {operands : List Terminal} :
    operands.find? (fun t => !terminals.contains t) = some t ↔
      t ∉ terminals.entries ∧ ∃ left right, operands = left ++ t :: right ∧
        ∀ u ∈ left, u ∈ terminals.entries := by
  simp only [List.find?_eq_some_iff_append, Bool.not_not, Terminals.containsIff, Bool.not_eq_true',
    ← Bool.not_eq_true]

theorem missingNone : missingTerminal? terminals op = none ↔ Supplied terminals op := by
  rw [missingEach, List.findSome?_eq_none_iff]
  exact forall₂_congr fun _ _ => operandsThere

theorem missingSome : missingTerminal? terminals op = some t ↔ Lacks terminals op t := by
  rw [missingEach, List.findSome?_eq_some_iff]
  simp only [operandMissing, operandsThere]
  constructor
  · rintro ⟨before, overload, after, split, ⟨absent, left, right, operands, known⟩, earlier⟩
    exact ⟨absent, before, overload, after, left, right, split, operands, earlier, known⟩
  · rintro ⟨absent, before, overload, after, left, right, split, operands, earlier, known⟩
    exact ⟨before, overload, after, split, ⟨absent, left, right, operands, known⟩, earlier⟩

/- What is found missing in a list of operations. -/
def missingIn (terminals : Terminals) (entries : List Operation) : Option Catalog.Error :=
  entries.findSome? fun op => (missingTerminal? terminals op).map (.missingTerminal op.name.text)

theorem checkedMissing (ops : Operations) (terminals : Terminals) :
    checkTerminals ops terminals = (missingIn terminals ops.entries).elim (.ok ()) .error := by
  unfold checkTerminals
  split
  · rename_i error found
    rw [missingIn, found]
    rfl
  · rename_i found
    rw [missingIn, found]
    rfl

theorem missingInNone {entries : List Operation} :
    missingIn terminals entries = none ↔ ∀ op ∈ entries, Supplied terminals op := by
  simp only [missingIn, List.findSome?_eq_none_iff, Option.map_eq_none_iff, missingNone]

theorem missingInSome {entries : List Operation} {error : Catalog.Error} :
    missingIn terminals entries = some error ↔ ∃ op t, FirstLack terminals entries op t ∧
      error = .missingTerminal op.name.text t := by
  simp only [missingIn, List.findSome?_eq_some_iff, Option.map_eq_some_iff, Option.map_eq_none_iff,
    missingNone, missingSome]
  constructor
  · rintro ⟨before, op, after, split, ⟨t, lacks, rfl⟩, earlier⟩
    exact ⟨op, t, ⟨before, after, split, earlier, lacks⟩, rfl⟩
  · rintro ⟨op, t, ⟨before, after, split, earlier, lacks⟩, rfl⟩
    exact ⟨before, op, after, split, ⟨t, lacks, rfl⟩, earlier⟩

theorem checkedOk :
    checkTerminals ops terminals = .ok () ↔ ∀ op ∈ ops.entries, Supplied terminals op := by
  rw [checkedMissing, ← missingInNone]
  cases missingIn terminals ops.entries <;> simp

theorem checkedError {error : Catalog.Error} :
    checkTerminals ops terminals = .error error ↔
      ∃ op t, FirstLack terminals ops.entries op t ∧ error = .missingTerminal op.name.text t := by
  rw [checkedMissing, ← missingInSome]
  cases missingIn terminals ops.entries <;> simp

/- Only what is in the terminal catalogue counts, not where. -/
theorem checkedMembers {other : Terminals}
    (same : ∀ t, t ∈ other.entries ↔ t ∈ terminals.entries) :
    checkTerminals ops other = checkTerminals ops terminals := by
  have found : ∀ t, other.contains t = terminals.contains t := fun t =>
    Bool.eq_iff_iff.mpr (by rw [Terminals.containsIff, Terminals.containsIff, same])
  simp only [checkTerminals, missingTerminal?, found]

theorem Supplied.more {other : Terminals} (supplied : Supplied terminals op)
    (more : ∀ t ∈ terminals.entries, t ∈ other.entries) : Supplied other op :=
  fun overload selected t operand => more t (supplied overload selected t operand)

/- What was found missing before is found first. -/
theorem checkedLonger {longer : Operations} (extends_ : ops.entries <+: longer.entries)
    {error : Catalog.Error} (failed : checkTerminals ops terminals = .error error) :
    checkTerminals longer terminals = .error error := by
  obtain ⟨added, entries⟩ := extends_
  obtain ⟨op, t, ⟨before, after, split, earlier, lacks⟩, rfl⟩ := checkedError.mp failed
  refine checkedError.mpr ⟨op, t, ⟨before, after ++ added, ?_, earlier, lacks⟩, rfl⟩
  rw [← entries, split, List.append_assoc, List.cons_append]

theorem noBodiesNoOverloads {category : Category} (none : category.hasBodies = false) :
    overloads category = [] := by
  by_contra some_
  rw [(hasBodiesIffOverloads _).mpr some_] at none
  contradiction

theorem unwrittenSupplied (terminals : Terminals) (none : unwritten op = true) :
    Supplied terminals op := by
  have bodiless : ∀ category : Category,
      (isPlaceholder category || category.isExternal) = true → category.hasBodies = false := by
    intro category
    cases category <;> decide
  intro overload selected
  rw [noBodiesNoOverloads (bodiless op.category none)] at selected
  exact absurd selected List.not_mem_nil

/- Operations that are not written can be left out. -/
theorem missingWritten (terminals : Terminals) (entries : List Operation) :
    missingIn terminals (entries.filter (!unwritten ·)) = missingIn terminals entries := by
  unfold missingIn
  induction entries with
  | nil => rfl
  | cons op rest ih =>
    cases none : unwritten op with
    | true =>
      rw [List.filter_cons_of_neg (by simp [none]), ih, List.findSome?_cons,
        missingNone.mpr (unwrittenSupplied terminals none)]
      rfl
    | false =>
      rw [List.filter_cons_of_pos (by simp [none]), List.findSome?_cons, List.findSome?_cons, ih]

theorem referenceSupplied (op : Operation) : Supplied .reference op := by
  have each : ∀ category ∈ Category.all, ∀ overload ∈ overloads category,
      ∀ t ∈ overload.operands, t ∈ Terminals.reference.entries := by decide
  exact each op.category op.category.memAll

theorem referenceAccepted (ops : Operations) : checkTerminals ops .reference = .ok () :=
  checkedOk.mpr fun op _ => referenceSupplied op

theorem listedReference {listing : Listing} (none : listing.terminals = [])
    (read : listing.catalogs = .ok (ops, terminals)) : terminals = .reference := by
  obtain ⟨_, _, rest⟩ := bindOk.mp read
  obtain ⟨_, chosen, last⟩ := bindOk.mp rest
  rw [Listing.terminalCatalog, if_pos none, Except.ok.injEq] at chosen
  cases Except.ok.inj last
  exact chosen.symm

theorem madeOk {names : Names} : (∃ g, Generator.make ops terminals names = .ok g) ↔
    checkTerminals ops terminals = .ok () := by
  constructor
  · rintro ⟨g, made⟩
    obtain ⟨rfl, rfl, _⟩ := Generator.madeOf made
    exact g.accepted
  · exact fun accepted => ⟨_, Generator.makeAccepted names accepted⟩

theorem madeError {names : Names} {error : Error} :
    Generator.make ops terminals names = .error error ↔
      ∃ cause, checkTerminals ops terminals = .error cause ∧ error = .catalog cause := by
  unfold Generator.make
  split
  · rename_i cause failed
    simp [failed, eq_comm]
  · rename_i accepted
    simp [accepted]

end

theorem firstLackReported (ops : Operations) (terminals : Terminals) :
    (checkTerminals ops terminals = .ok () ↔ ∀ op ∈ ops.entries, ∀ overload ∈ overloads op.category,
      ∀ t ∈ overload.operands, t ∈ terminals.entries) ∧
    (∀ error, checkTerminals ops terminals = .error error ↔ ∃ op t,
      FirstLack terminals ops.entries op t ∧ error = .missingTerminal op.name.text t) ∧
    (∀ names, (∃ g, Generator.make ops terminals names = .ok g) ↔
      checkTerminals ops terminals = .ok ()) ∧
    (∀ names error, Generator.make ops terminals names = .error error ↔
      ∃ cause, checkTerminals ops terminals = .error cause ∧ error = .catalog cause) ∧
    (∀ other : Terminals, other.entries.Perm terminals.entries →
      checkTerminals ops other = checkTerminals ops terminals) ∧
    (∀ more : Terminals, (∀ t ∈ terminals.entries, t ∈ more.entries) →
      checkTerminals ops terminals = .ok () → checkTerminals ops more = .ok ()) ∧
    (∀ longer : Operations, ops.entries <+: longer.entries → ∀ error,
      checkTerminals ops terminals = .error error →
      checkTerminals longer terminals = .error error) ∧
    (∀ attempts error, checkTerminals ops terminals = .error error →
      checkTerminals (ops.grown attempts) terminals = .error error) ∧
    ((∀ op ∈ ops.entries, unwritten op = true) → checkTerminals ops terminals = .ok ()) ∧
    (∀ other : Operations,
      other.entries.filter (!unwritten ·) = ops.entries.filter (!unwritten ·) →
      checkTerminals other terminals = checkTerminals ops terminals) ∧
    checkTerminals ops .reference = .ok () ∧
    ∀ listing : Listing, listing.terminals = [] → ∀ read, listing.catalogs = .ok read →
      checkTerminals read.1 read.2 = .ok () := by
  refine ⟨checkedOk, fun _ => checkedError, fun _ => madeOk, fun _ _ => madeError,
    fun _ shuffled => checkedMembers fun t => shuffled.mem_iff, ?_,
    fun _ extends_ _ => checkedLonger extends_,
    fun attempts _ => checkedLonger (ops.grownExtends attempts), ?_, ?_, referenceAccepted ops, ?_⟩
  · exact fun _ more accepted => checkedOk.mpr fun op member =>
      (checkedOk.mp accepted op member).more more
  · exact fun none => checkedOk.mpr fun op member => unwrittenSupplied terminals (none op member)
  · intro other same
    rw [checkedMissing, checkedMissing, ← missingWritten, same, missingWritten]
  · rintro listing none ⟨read, found⟩ ok
    rw [listedReference none ok]
    exact referenceAccepted read

/- No complex matrices, which the third overload of a sum takes. -/
def realTerminals : Terminals := ⟨[realScalar, realDense], by decide, by decide⟩

def realTerminalsTurned : Terminals := ⟨[realDense, realScalar], by decide, by decide⟩

theorem smallCatalogLacksComplex :
    checkTerminals smallCatalog realTerminals = .error (.missingTerminal "PLUS" complexDense) ∧
    checkTerminals smallCatalog realTerminalsTurned =
      .error (.missingTerminal "PLUS" complexDense) ∧
    checkTerminals (smallCatalog.grown [.placeholderUnary "ABS"]) realTerminals =
      .error (.missingTerminal "PLUS" complexDense) := by
  obtain ⟨_, reported, _, _, turned, _, _, later, _⟩ := firstLackReported smallCatalog realTerminals
  have lacks : FirstLack realTerminals smallCatalog.entries _ complexDense :=
    ⟨[], _, rfl, List.forall_mem_nil _, by decide, [_, _], _, [], [], [complexDense], rfl, rfl,
      by decide, List.forall_mem_nil _⟩
  have failed := (reported _).mpr ⟨_, _, lacks, rfl⟩
  exact ⟨failed, (turned realTerminalsTurned (by decide)).trans failed, later _ _ failed⟩

end DoubleDispatch.Emit
