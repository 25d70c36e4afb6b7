/-! Terminal types: the leaves of the expression graph, each one a domain and a shape. -/
namespace DoubleDispatch.Catalog

inductive Domain where
  | real
  | complex
  | integer
  | logical
  deriving DecidableEq, Repr

namespace Domain

def all : List Domain := [.real, .complex, .integer, .logical]

def name : Domain → String
  | .real => "real"
  | .complex => "complex"
  | .integer => "integer"
  | .logical => "logical"

/-- The spelling inside type names. -/
def camel : Domain → String
  | .real => "Real"
  | .complex => "Complex"
  | .integer => "Integer"
  | .logical => "Logical"

/-- The spelling inside type tags. -/
def upper : Domain → String
  | .real => "REAL"
  | .complex => "COMPLEX"
  | .integer => "INTEGER"
  | .logical => "LOGICAL"

def elementType : Domain → String
  | .real | .logical => "real8"
  | .complex => "complex16"
  | .integer => "int"

def rank : Domain → Nat
  | .real => 0
  | .complex => 1
  | .integer => 2
  | .logical => 3

theorem memAll (d : Domain) : d ∈ all := by cases d <;> decide

theorem nameInjective {a b : Domain} (same : a.name = b.name) : a = b := by
  cases a <;> cases b <;> first | rfl | exact absurd same (by decide)

end Domain

inductive Shape where
  | scalar
  | matrix
  | denseMatrix
  | diagonalMatrix
  | sparseMatrix
  deriving DecidableEq, Repr

namespace Shape

def all : List Shape := [.scalar, .matrix, .denseMatrix, .diagonalMatrix, .sparseMatrix]

def name : Shape → String
  | .scalar => "scalar"
  | .matrix => "matrix"
  | .denseMatrix => "dense_matrix"
  | .diagonalMatrix => "diagonal_matrix"
  | .sparseMatrix => "sparse_matrix"

/-- The spelling inside type names. -/
def camel : Shape → String
  | .scalar => "Scalar"
  | .matrix => "Matrix"
  | .denseMatrix => "DenseMatrix"
  | .diagonalMatrix => "DiagonalMatrix"
  | .sparseMatrix => "SparseMatrix"

/-- The spelling inside type tags. -/
def upper : Shape → String
  | .scalar => "SCALAR"
  | .matrix => "MATRIX"
  | .denseMatrix => "DENSE_MATRIX"
  | .diagonalMatrix => "DIAGONAL_MATRIX"
  | .sparseMatrix => "SPARSE_MATRIX"

def rank : Shape → Nat
  | .scalar => 0
  | .matrix => 1
  | .denseMatrix => 2
  | .diagonalMatrix => 3
  | .sparseMatrix => 4

theorem memAll (s : Shape) : s ∈ all := by cases s <;> decide

theorem nameInjective {a b : Shape} (same : a.name = b.name) : a = b := by
  cases a <;> cases b <;> first | rfl | exact absurd same (by decide)

end Shape

structure Terminal where
  domain : Domain
  shape : Shape
  deriving DecidableEq, Repr

namespace Terminal

def typeName (t : Terminal) : String := "OG" ++ t.domain.camel ++ t.shape.camel

def typeTag (t : Terminal) : String := t.domain.upper ++ "_" ++ t.shape.upper ++ "_ENUM"

def elementType (t : Terminal) : String := t.domain.elementType

def isScalar (t : Terminal) : Bool := t.shape == .scalar

def display (t : Terminal) : String := "(" ++ t.domain.camel ++ ", " ++ t.shape.camel ++ ")"

/-- Domain first, then shape, both in the order of their declaration. -/
def before (a b : Terminal) : Bool :=
  a.domain.rank < b.domain.rank || (a.domain.rank == b.domain.rank && a.shape.rank ≤ b.shape.rank)

def all : List Terminal := Domain.all.flatMap (fun d => Shape.all.map (Terminal.mk d))

theorem memAll (t : Terminal) : t ∈ all :=
  List.mem_flatMap.mpr ⟨t.domain, t.domain.memAll, List.mem_map.mpr ⟨t.shape, t.shape.memAll, rfl⟩⟩

end Terminal
end DoubleDispatch.Catalog
