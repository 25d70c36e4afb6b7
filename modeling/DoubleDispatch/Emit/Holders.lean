import DoubleDispatch.Emit.Dispatch

/-! Data holders: an expression node class for every operation that is not external, and the
conversions between nodes. No overload logic is involved. -/
namespace DoubleDispatch.Emit
open Catalog (Category Operation Operations)
open Template (Fragment)

def holderBase : Category.Arity → String
  | .one => "OGUnaryExpr"
  | .two => "OGBinaryExpr"

def holderParameters : Category.Arity → String
  | .one => "OGNumeric* arg"
  | .two => "OGNumeric* arg0, OGNumeric* arg1"

def holderArguments : Category.Arity → String
  | .one => "arg"
  | .two => "arg0, arg1"

def copiedArguments : Category.Arity → String
  | .one => "getArg(0)->copy()"
  | .two => "getArg(0)->copy(), getArg(1)->copy()"

def holders (ops : Operations) : List Operation :=
  ops.entries.filter (fun op => !op.category.isExternal)

def expressionClass (op : Operation) : Fragment :=
  (((Fragment.of .expressionClass).set "nodename" op.name.text).set "base"
    (holderBase op.arity)).set "ctor_params" (holderParameters op.arity)

def expressionHeader (ops : Operations) (names : Names) : Except Error String := do
  let classes ← fillAll ((holders ops).map expressionClass)
  fill (((Fragment.of .expressionHeader).set "namespace" names.namespaceName).set
    "class_definitions" classes)

def expressionFunctions (op : Operation) : Fragment :=
  ((((Fragment.of .expressionFunctions).set "nodename" op.name.text).set "enumname"
    op.enumName.text).set "base" (holderBase op.arity)).set "ctor_params"
    (holderParameters op.arity) |>.set "ctor_args" (holderArguments op.arity)
    |>.set "copy_args" (copiedArguments op.arity)

def expressionSource (ops : Operations) (names : Names) : Except Error String := do
  let functions ← fillAll ((holders ops).map expressionFunctions)
  fill (((Fragment.of .expressionSource).set "namespace" names.namespaceName).set
    "function_definitions" functions)

def conversionDeclaration (op : Operation) : Fragment :=
  (Fragment.of .numericConversionDeclaration).set "nodename" op.name.text

def conversionDefinition (op : Operation) : Fragment :=
  (Fragment.of .numericConversionDefinition).set "nodename" op.name.text

def numericHeader (ops : Operations) (names : Names) : Except Error String := do
  let declarations ← fillAll ((holders ops).map (fun op => forwardDeclaration op.name.text))
  let conversions ← fillAll ((holders ops).map conversionDeclaration)
  fill ((((Fragment.of .numericHeader).set "namespace" names.namespaceName).set "forward_decls"
    declarations).set "conversions" conversions)

def numericSource (ops : Operations) (names : Names) : Except Error String := do
  let conversions ← fillAll ((holders ops).map conversionDefinition)
  fill (((Fragment.of .numericSource).set "namespace" names.namespaceName).set "conversions"
    conversions)

end DoubleDispatch.Emit
