import DoubleDispatch.Emit.Basic
import DoubleDispatch.Emit.Overload

/-! Runners: one class per operation, with an overriding entry point per overload, and one function
body per overload of the operations that have bodies. -/
namespace DoubleDispatch.Emit
open Catalog (Category Terminal Symbol Operation Operations)
open Text (Identifier)
open Template (Fragment)

def entryPoint : Overload → Fragment
  | .unary operand => (Fragment.of .runnerUnaryEntry).set "argtype" operand.typeName
  | .binary left right =>
    ((Fragment.of .runnerBinaryEntry).set "arg0type" left.typeName).set "arg1type" right.typeName

def baseOverloads (op : Operation) : Fragment :=
  (Fragment.of .runnerBaseOverloads).set "base" (runnerBase op.arity)

def evalEntry (op : Operation) : Fragment :=
  (Fragment.of .runnerEvalEntry).set "params" (evalParameters op.arity)

/- Generated operations override the entry points of their overloads, external ones the common
entry, and placeholders nothing. -/
def members (op : Operation) : List Fragment :=
  baseOverloads op ::
    (if op.category.isExternal then [evalEntry op] else (overloads op.category).map entryPoint)

def runnerClass (op : Operation) (memberText : String) : Fragment :=
  (((Fragment.of .runnerClass).set "nodename" op.name.text).set "base" (runnerBase op.arity)).set
    "members" memberText

def declaration (op : Operation) : Except Error String := do
  fill (runnerClass op (← fillAll (members op)))

inductive Payload where
  | infixSymbol (symbol : Symbol)
  | prefixSymbol (symbol : Symbol)
  | function (name : Identifier)
  deriving DecidableEq, Repr

/- The payload of the kinds that have bodies. -/
def payload? (op : Operation) : Option Payload :=
  match op.kind with
  | .infixArithmetic symbol => some (.infixSymbol symbol)
  | .prefixArithmetic symbol => some (.prefixSymbol symbol)
  | .elementwiseFunction name => some (.function name)
  | _ => none

def Payload.scalarKind : Payload → Template.Kind
  | .infixSymbol _ => .infixScalarBody
  | .prefixSymbol _ => .prefixScalarBody
  | .function _ => .functionScalarBody

def Payload.matrixKind : Payload → Template.Kind
  | .infixSymbol _ => .infixMatrixBody
  | .prefixSymbol _ => .prefixMatrixBody
  | .function _ => .functionMatrixBody

def Payload.placeholder : Payload → String
  | .infixSymbol _ | .prefixSymbol _ => "symbol"
  | .function _ => "function"

def Payload.text : Payload → String
  | .infixSymbol symbol | .prefixSymbol symbol => symbol.text
  | .function name => name.text

/- Matrix bodies walk a buffer of elements; scalar bodies have none. -/
def implementation (payload : Payload) (result : Terminal) : Fragment :=
  let start :=
    if result.isScalar then Fragment.of payload.scalarKind
    else (Fragment.of payload.matrixKind).set "datatype" result.elementType
  (start.set payload.placeholder payload.text).set "returntype" result.typeName

def runnerFunction (op : Operation) (overload : Overload) (body : String) : Fragment :=
  let start := match overload with
    | .unary operand => (Fragment.of .unaryRunnerFunction).set "argtype" operand.typeName
    | .binary left right =>
      ((Fragment.of .binaryRunnerFunction).set "arg0type" left.typeName).set "arg1type"
        right.typeName
  ((start.set "nodename" op.name.text).set "returntype" overload.result.typeName).set
    "implementation" body

def body (op : Operation) (payload : Payload) (overload : Overload) : Except Error String := do
  fill (runnerFunction op overload (← fill (implementation payload overload.result)))

def bodies (op : Operation) : Except Error (List String) :=
  match payload? op with
  | some payload => (overloads op.category).mapM (body op payload)
  | none => .error (.noBodies op.name.text op.category)

def runnersHeader (ops : Operations) (names : Names) : Except Error String := do
  let classes ← ops.entries.mapM declaration
  fill (((Fragment.of .runnersHeader).set "namespace" names.namespaceName).set
    "class_definitions" (String.join classes))

/- The operations for which bodies are asked. -/
def bodied (ops : Operations) : List Operation := ops.entries.filter (·.category.hasBodies)

def runnersSource (ops : Operations) (names : Names) : Except Error String := do
  let functions ← (bodied ops).mapM bodies
  fill (((Fragment.of .runnersSource).set "namespace" names.namespaceName).set
    "function_definitions" (String.join functions.flatten))

end DoubleDispatch.Emit
