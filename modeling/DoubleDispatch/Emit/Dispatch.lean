import DoubleDispatch.Emit.Basic
import DoubleDispatch.Catalog.Terminals

/-! The dispatch table. The base classes have an entry point for every terminal type and for every
ordered pair of them, each with a default that throws; the switches route on type tags, and every
operation is routed to its own runner. -/
namespace DoubleDispatch.Emit
open Catalog (Terminal Terminals Operation Operations)
open Template (Fragment)

/- Pairs by rows: the left operand varies slowest. -/
def terminalPairs (terminals : Terminals) : List (Terminal × Terminal) :=
  terminals.entries.flatMap (fun left => terminals.entries.map (fun right => (left, right)))

def forwardDeclaration (name : String) : Fragment :=
  (Fragment.of .forwardDeclaration).set "name" name

def dispatchUnaryEntry (t : Terminal) : Fragment :=
  (Fragment.of .dispatchUnaryEntry).set "argtype" t.typeName

def dispatchBinaryEntry (pair : Terminal × Terminal) : Fragment :=
  ((Fragment.of .dispatchBinaryEntry).set "arg0type" pair.1.typeName).set "arg1type"
    pair.2.typeName

def runnerMember (op : Operation) : Fragment :=
  (Fragment.of .runnerMember).set "nodename" op.name.text

def dispatchHeader (ops : Operations) (terminals : Terminals) (names : Names) :
    Except Error String := do
  let declared := terminals.entries.map Terminal.typeName ++ ops.entries.map Operation.runnerName
  let declarations ← fillAll (declared.map forwardDeclaration)
  let unaryEntries ← fillAll (terminals.entries.map dispatchUnaryEntry)
  let binaryEntries ← fillAll ((terminalPairs terminals).map dispatchBinaryEntry)
  let runnerMembers ← fillAll (ops.entries.map runnerMember)
  fill (((((Fragment.of .dispatchHeader).set "namespace" names.namespaceName).set
    "forward_decls" declarations).set "unary_entry_points" unaryEntries).set
    "binary_entry_points" binaryEntries |>.set "runner_members" runnerMembers)

def unaryCase (t : Terminal) : Fragment :=
  ((Fragment.of .dispatchUnaryEvalCase).set "typeenum" t.typeTag).set "argtype" t.typeName

def unaryDefault (t : Terminal) : Fragment :=
  (Fragment.of .dispatchUnaryDefault).set "argtype" t.typeName

def innerCase (left right : Terminal) : Fragment :=
  (((Fragment.of .dispatchBinaryEvalInnerCase).set "typeenum" right.typeTag).set "arg0type"
    left.typeName).set "arg1type" right.typeName

def outerCase (left : Terminal) (innerCases : String) : Fragment :=
  ((Fragment.of .dispatchBinaryEvalOuterCase).set "typeenum" left.typeTag).set "inner_cases"
    innerCases

def binaryCase (terminals : Terminals) (left : Terminal) : Except Error String := do
  fill (outerCase left (← fillAll (terminals.entries.map (innerCase left))))

def binaryDefault (pair : Terminal × Terminal) : Fragment :=
  ((Fragment.of .dispatchBinaryDefault).set "arg0type" pair.1.typeName).set "arg1type"
    pair.2.typeName

def runnerConstruction (op : Operation) : Fragment :=
  (Fragment.of .runnerConstruction).set "nodename" op.name.text

def runnerDestruction (op : Operation) : Fragment :=
  (Fragment.of .runnerDestruction).set "nodename" op.name.text

def dispatchCase (op : Operation) : Fragment :=
  (((Fragment.of .dispatchCase).set "enumname" op.enumName.text).set "nodename" op.name.text).set
    "eval_args" (evalArguments op.arity)

def dispatchSource (ops : Operations) (terminals : Terminals) (names : Names) :
    Except Error String := do
  let binaryCases ← terminals.entries.mapM (binaryCase terminals)
  let unaryCases ← fillAll (terminals.entries.map unaryCase)
  let unaryDefaults ← fillAll (terminals.entries.map unaryDefault)
  let binaryDefaults ← fillAll ((terminalPairs terminals).map binaryDefault)
  let constructions ← fillAll (ops.entries.map runnerConstruction)
  let destructions ← fillAll (ops.entries.map runnerDestruction)
  let cases ← fillAll (ops.entries.map dispatchCase)
  fill (((((Fragment.of .dispatchSource).set "namespace" names.namespaceName).set
    "unary_eval_cases" unaryCases).set "unary_defaults" unaryDefaults).set
    "binary_eval_cases" (String.join binaryCases) |>.set "binary_defaults" binaryDefaults
    |>.set "runner_constructions" constructions |>.set "runner_destructions" destructions
    |>.set "dispatch_cases" cases)

end DoubleDispatch.Emit
