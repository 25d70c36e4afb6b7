import DoubleDispatch.Catalog.Operation
import DoubleDispatch.Catalog.Repeat

/-! The operation catalogue: an ordered list in which the position is the ordinal. Names,
enumeration names and runner names share one scope in the emitted sources, so no two of them may
be equal; the first repeat in reading order is the one reported. -/
namespace DoubleDispatch.Catalog

inductive Role where
  | enumName
  | name
  | runner
  deriving DecidableEq, Repr

/-- One use of an identifier: by which entry, and as what. -/
structure Mark where
  role : Role
  identifier : String
  position : Nat
  deriving DecidableEq, Repr

def Operation.marks (op : Operation) (position : Nat) : List Mark :=
  [⟨.enumName, op.enumName.text, position⟩, ⟨.name, op.name.text, position⟩,
   ⟨.runner, op.runnerName, position⟩]

def Operation.identifiers (op : Operation) : List String :=
  [op.enumName.text, op.name.text, op.runnerName]

def marks (entries : List Operation) : List Mark :=
  entries.zipIdx.flatMap (fun entry => entry.1.marks entry.2)

theorem marksIdentifiers (entries : List Operation) :
    (marks entries).map Mark.identifier = entries.flatMap Operation.identifiers := by
  have general : ∀ start, (entries.zipIdx start).flatMap
      (fun entry => (entry.1.marks entry.2).map Mark.identifier) =
      entries.flatMap Operation.identifiers := by
    induction entries with
    | nil => simp
    | cons op rest ih =>
      intro start
      simp only [List.zipIdx_cons, List.flatMap_cons, ih]
      rfl
  simpa [marks, List.map_flatMap] using general 0

def Mark.clash (earlier later : Mark) : Error :=
  match earlier.role, later.role with
  | .enumName, .enumName =>
      .duplicateEnumName later.identifier earlier.position later.position
  | .name, .name => .duplicateName later.identifier earlier.position later.position
  | _, _ => .identifierClash later.identifier earlier.position later.position

structure Operations where
  entries : List Operation
  nonempty : entries ≠ []
  distinct : (entries.flatMap Operation.identifiers).Nodup
  deriving DecidableEq, Repr

namespace Operations

def ofList (entries : List Operation) : Except Error Operations :=
  if empty : entries = [] then .error (.empty .operation)
  else
    match fresh : firstRepeat Mark.identifier (marks entries) with
    | some (earlier, later) => .error (earlier.clash later)
    | none => .ok ⟨entries, empty, marksIdentifiers entries ▸ firstRepeatNone.mp fresh⟩

/-- All rows are checked before any two of them are compared. -/
def ofRows (rows : List Row) : Except Error Operations := do
  ofList (← rows.mapM Operation.ofRow)

def append (ops : Operations) (row : Row) : Except Error Operations := do
  ofList (ops.entries ++ [← Operation.ofRow row])

def size (ops : Operations) : Nat := ops.entries.length

def get? (ops : Operations) (name : String) : Option Operation :=
  ops.entries.find? (fun op => op.name.text == name)

def ordinalOf? (ops : Operations) (enumName : String) : Option Nat :=
  ops.entries.findIdx? (fun op => op.enumName.text == enumName)

end Operations
end DoubleDispatch.Catalog
