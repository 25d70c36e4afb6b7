import DoubleDispatch.Catalog.Operations

/-! The reference catalogue of operations. Its order is shared with artifacts compiled earlier, so
new operations go to the very end. -/
namespace DoubleDispatch.Catalog

namespace Row

def bare (category : Category) (name : String) (enumName : Option String) : Row :=
  ⟨name, enumName, category, none, none⟩

def placeholderUnary (name : String) : Row := bare .placeholderUnary name none

def placeholderBinary (name : String) : Row := bare .placeholderBinary name none

def infixArithmetic (name enumName symbol : String) : Row :=
  { bare .infixArithmetic name (some enumName) with symbol := some symbol }

def prefixArithmetic (name enumName symbol : String) : Row :=
  { bare .prefixArithmetic name (some enumName) with symbol := some symbol }

def elementwiseFunction (name enumName function : String) : Row :=
  { bare .elementwiseFunction name (some enumName) with function := some function }

def externalUnary (name enumName : String) : Row := bare .externalUnary name (some enumName)

def externalBinary (name enumName : String) : Row := bare .externalBinary name (some enumName)

def selectResult (name enumName : String) : Row := bare .selectResult name (some enumName)

end Row

def referenceRows : List Row :=
  [.placeholderUnary "ABS",
   .elementwiseFunction "ACOS" "ACOS_ENUM" "acos",
   .placeholderUnary "ACOSH",
   .placeholderUnary "ANGLE",
   .placeholderUnary "ASIN",
   .elementwiseFunction "ASINH" "ASINH_ENUM" "asinh",
   .elementwiseFunction "ATAN" "ATAN_ENUM" "atan",
   .placeholderUnary "ATANH",
   .placeholderUnary "CONJ",
   .elementwiseFunction "COS" "COS_ENUM" "cos",
   .placeholderUnary "COSH",
   .placeholderUnary "DIAG",
   .placeholderBinary "DOT",
   .placeholderUnary "EIG",
   .placeholderUnary "ERF",
   .placeholderUnary "ERFC",
   .elementwiseFunction "EXP" "EXP_ENUM" "exp",
   .placeholderUnary "EYE",
   .placeholderUnary "FLIPLR",
   .placeholderUnary "FLIPUD",
   .placeholderUnary "HILB",
   .placeholderBinary "HORZCAT",
   .placeholderUnary "IMAG",
   .placeholderUnary "INVHILB",
   .placeholderUnary "LOG",
   .infixArithmetic "MINUS" "MINUS_ENUM" "-",
   .prefixArithmetic "NEGATE" "NEGATE_ENUM" "-",
   .placeholderUnary "NORMCDF",
   .placeholderBinary "POWER",
   .infixArithmetic "PLUS" "PLUS_ENUM" "+",
   .infixArithmetic "RDIVIDE" "RDIVIDE_ENUM" "/",
   .placeholderUnary "REAL",
   .placeholderUnary "ROUND",
   .elementwiseFunction "SIN" "SIN_ENUM" "sin",
   .elementwiseFunction "SINH" "SINH_ENUM" "sinh",
   .placeholderUnary "SQRT",
   .elementwiseFunction "TAN" "TAN_ENUM" "tan",
   .elementwiseFunction "TANH" "TANH_ENUM" "tanh",
   .infixArithmetic "TIMES" "TIMES_ENUM" "*",
   .placeholderBinary "VERTCAT",
   .placeholderUnary "WILKINSON",
   .externalUnary "NORM2" "NORM2_ENUM",
   .externalUnary "PINV" "PINV_ENUM",
   .externalUnary "INV" "INV_ENUM",
   .externalUnary "SVD" "SVD_ENUM",
   .selectResult "SELECTRESULT" "SELECTRESULT_ENUM",
   .externalBinary "MTIMES" "MTIMES_ENUM",
   .externalUnary "TRANSPOSE" "TRANSPOSE_ENUM",
   .externalUnary "CTRANSPOSE" "CTRANSPOSE_ENUM",
   .externalUnary "LU" "LU_ENUM",
   .externalBinary "MLDIVIDE" "MLDIVIDE_ENUM",
   .externalUnary "QR" "QR_ENUM",
   .externalUnary "SUMCOLS" "SUMCOLS_ENUM",
   .externalUnary "SUMROWS" "SUMROWS_ENUM"]

def referenceOperations : Except Error Operations := Operations.ofRows referenceRows

end DoubleDispatch.Catalog
