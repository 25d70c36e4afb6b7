import DoubleDispatch.Emit.Basic
import DoubleDispatch.Catalog.Terminals
import DoubleDispatch.Decimal.Digits

/-! The construction table: how every terminal type and every operation, external ones included, is
built from its tag. -/
namespace DoubleDispatch.Emit
open Catalog (Terminal Terminals Operation Operations)
open Template (Fragment)

def terminalConstruction (t : Terminal) : Fragment :=
  ((Fragment.of .constructionTerminalCase).set "typeenum" t.typeTag).set "typename" t.typeName

def operationConstruction (op : Operation) : Fragment :=
  ((((Fragment.of .constructionExpressionCase).set "enumname" op.enumName.text).set "nodename"
    op.name.text).set "arity" (Decimal.text op.arity.count)).set "ctor_args"
    (nodeArguments op.arity)

def constructionSource (ops : Operations) (terminals : Terminals) (names : Names) :
    Except Error String := do
  let terminalCases ← fillAll (terminals.entries.map terminalConstruction)
  let operationCases ← fillAll (ops.entries.map operationConstruction)
  fill ((((Fragment.of .constructionSource).set "namespace" names.namespaceName).set
    "terminal_cases" terminalCases).set "operation_cases" operationCases)

end DoubleDispatch.Emit
