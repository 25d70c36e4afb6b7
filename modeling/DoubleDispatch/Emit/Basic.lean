import DoubleDispatch.Template.Fragment
import DoubleDispatch.Catalog.Operations

/-! What every artifact shares: the two names stamped into the text, the errors of emission, and
the parts of a declaration that depend on the number of operands only. -/
namespace DoubleDispatch.Emit
open Catalog (Category Operation)
open Template (Fragment FillError)

structure Names where
  namespaceName : String
  javaPackage : String
  deriving DecidableEq, Repr

def Names.standard : Names := ⟨"librdag", "com.opengamma.rdag.enums"⟩

inductive Error where
  | noBodies (operation : String) (category : Category)
  | catalog (error : Catalog.Error)
  | fill (error : FillError)
  deriving DecidableEq, Repr

def Error.message : Error → String
  | .noBodies operation category =>
      "Operation " ++ operation ++ " (" ++ category.name ++ ") does not produce body units"
  | .catalog error => error.message
  | .fill error => error.message

def fill (fragment : Fragment) : Except Error String := fragment.fill.mapError .fill

def fillAll (fragments : List Fragment) : Except Error String :=
  (Fragment.fillAll fragments).mapError .fill

/- The dispatch base class of a runner. -/
def runnerBase : Category.Arity → String
  | .one => "DispatchVoidUnaryOp"
  | .two => "DispatchVoidBinaryOp"

def evalParameters : Category.Arity → String
  | .one => "RegContainer* reg, const OGTerminal* arg"
  | .two => "RegContainer* reg, const OGTerminal* arg0, const OGTerminal* arg1"

def evalArguments : Category.Arity → String
  | .one => "args->terminal(0)"
  | .two => "args->terminal(0), args->terminal(1)"

def nodeArguments : Category.Arity → String
  | .one => "args->node(0)"
  | .two => "args->node(0), args->node(1)"

end DoubleDispatch.Emit
