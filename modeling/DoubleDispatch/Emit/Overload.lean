import DoubleDispatch.Catalog.Operations
import DoubleDispatch.Catalog.Terminals

/-! Which operand types get an overload is decided by the category of an operation alone. Operands
and result are always of one terminal type; mixed types are left to the defaults, which throw. -/
namespace DoubleDispatch.Emit
open Catalog (Category Terminal Operation Operations Terminals)

inductive Overload where
  | unary (operand : Terminal)
  | binary (left right : Terminal)
  deriving DecidableEq, Repr

namespace Overload

def operands : Overload → List Terminal
  | .unary operand => [operand]
  | .binary left right => [left, right]

def result : Overload → Terminal
  | .unary operand => operand
  | .binary left _ => left

def isScalar (overload : Overload) : Bool := overload.result.isScalar

end Overload

def realScalar : Terminal := ⟨.real, .scalar⟩

def realDense : Terminal := ⟨.real, .denseMatrix⟩

def complexDense : Terminal := ⟨.complex, .denseMatrix⟩

def overloads : Category → List Overload
  | .infixArithmetic =>
    [.binary realScalar realScalar, .binary realDense realDense,
     .binary complexDense complexDense]
  | .prefixArithmetic => [.unary realScalar, .unary realDense]
  | .elementwiseFunction => [.unary realScalar, .unary realDense, .unary complexDense]
  | _ => []

/- The terminals the overloads of a category need, in the order in which they are looked for. -/
def needed (category : Category) : List Terminal := (overloads category).flatMap Overload.operands

def missingTerminal? (terminals : Terminals) (op : Operation) : Option Terminal :=
  (needed op.category).find? (fun t => !terminals.contains t)

def checkTerminals (ops : Operations) (terminals : Terminals) : Except Catalog.Error Unit :=
  match ops.entries.findSome? (fun op =>
      (missingTerminal? terminals op).map (Catalog.Error.missingTerminal op.name.text)) with
  | some error => .error error
  | none => .ok ()

theorem overloadSameKind {category : Category} {overload : Overload}
    (member : overload ∈ overloads category) : ∀ t ∈ overload.operands, t = overload.result := by
  cases category <;> simp only [overloads, List.mem_cons, List.not_mem_nil, or_false] at member <;>
    rcases member with rfl | rfl | rfl <;> decide

theorem hasBodiesIffOverloads (category : Category) :
    category.hasBodies = true ↔ overloads category ≠ [] := by
  cases category <;> decide

end DoubleDispatch.Emit
