/-! Categories of operations. The category alone fixes the number of operands, the payload a row
must carry, and whether overload bodies are written. -/
namespace DoubleDispatch.Catalog

inductive PayloadField where
  | symbol
  | function
  deriving DecidableEq, Repr

def PayloadField.name : PayloadField → String
  | .symbol => "symbol"
  | .function => "function"

inductive Category where
  | infixArithmetic
  | prefixArithmetic
  | elementwiseFunction
  | placeholderUnary
  | placeholderBinary
  | externalUnary
  | externalBinary
  | selectResult
  deriving DecidableEq, Repr

namespace Category

def all : List Category :=
  [.infixArithmetic, .prefixArithmetic, .elementwiseFunction, .placeholderUnary,
   .placeholderBinary, .externalUnary, .externalBinary, .selectResult]

/-- The spelling used in catalogue files and messages. -/
def name : Category → String
  | .infixArithmetic => "infix_arithmetic"
  | .prefixArithmetic => "prefix_arithmetic"
  | .elementwiseFunction => "unary_elementwise_function"
  | .placeholderUnary => "placeholder_unary"
  | .placeholderBinary => "placeholder_binary"
  | .externalUnary => "external_unary_expression"
  | .externalBinary => "external_binary_expression"
  | .selectResult => "external_select_result"

inductive Arity where
  | one
  | two
  deriving DecidableEq, Repr

def Arity.count : Arity → Nat
  | .one => 1
  | .two => 2

/-- A selection takes the multi-result expression and the index of the result. -/
def arity : Category → Arity
  | .prefixArithmetic | .elementwiseFunction | .placeholderUnary | .externalUnary => .one
  | .infixArithmetic | .placeholderBinary | .externalBinary | .selectResult => .two

def hasBodies : Category → Bool
  | .infixArithmetic | .prefixArithmetic | .elementwiseFunction => true
  | _ => false

def isExternal : Category → Bool
  | .externalUnary | .externalBinary | .selectResult => true
  | _ => false

def payloadField : Category → Option PayloadField
  | .infixArithmetic | .prefixArithmetic => some .symbol
  | .elementwiseFunction => some .function
  | _ => none

theorem memAll (c : Category) : c ∈ all := by cases c <;> decide

theorem nameInjective {a b : Category} (same : a.name = b.name) : a = b := by
  cases a <;> cases b <;> first | rfl | exact absurd same (by decide)

theorem bodiesNotExternal {c : Category} (bodies : c.hasBodies = true) : c.isExternal = false := by
  cases c <;> simp_all [hasBodies, isExternal]

end Category
end DoubleDispatch.Catalog
