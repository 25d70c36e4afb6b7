import DoubleDispatch.Catalog.Error
import DoubleDispatch.Catalog.Repeat

/-! The terminal catalogue: an ordered list of terminal types without repeats. -/
namespace DoubleDispatch.Catalog

structure Terminals where
  entries : List Terminal
  nonempty : entries ≠ []
  distinct : entries.Nodup
  deriving DecidableEq, Repr

namespace Terminals

def ofList (entries : List Terminal) : Except Error Terminals :=
  if empty : entries = [] then .error (.empty .terminal)
  else
    match fresh : firstRepeat Prod.fst entries.zipIdx with
    | some (earlier, later) => .error (.duplicateTerminal later.1 earlier.2 later.2)
    | none => .ok ⟨entries, empty, by simpa using firstRepeatNone.mp fresh⟩

def size (terminals : Terminals) : Nat := terminals.entries.length

def find? (terminals : Terminals) (terminal : Terminal) : Option Terminal :=
  terminals.entries.find? (· == terminal)

def contains (terminals : Terminals) (terminal : Terminal) : Bool :=
  (terminals.find? terminal).isSome

theorem containsIff {terminals : Terminals} {terminal : Terminal} :
    terminals.contains terminal = true ↔ terminal ∈ terminals.entries := by
  simp [contains, find?]

/-- The terminal types of the reference runtime, in the order of its dispatch table. -/
def reference : Terminals where
  entries :=
    [⟨.real, .scalar⟩, ⟨.complex, .scalar⟩, ⟨.integer, .scalar⟩, ⟨.real, .denseMatrix⟩,
     ⟨.logical, .matrix⟩, ⟨.complex, .denseMatrix⟩, ⟨.real, .diagonalMatrix⟩,
     ⟨.complex, .diagonalMatrix⟩, ⟨.real, .sparseMatrix⟩, ⟨.complex, .sparseMatrix⟩]
  nonempty := by decide
  distinct := by decide

end Terminals
end DoubleDispatch.Catalog
