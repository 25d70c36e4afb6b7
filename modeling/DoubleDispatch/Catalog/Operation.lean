import DoubleDispatch.Catalog.Error
import DoubleDispatch.Text.Identifier
import DoubleDispatch.Text.Blank

/-! A row is an operation as an author writes it; an operation is a row that was checked, with the
category and its payload in one kind. Checks run in a fixed order and the first failure is kept:
name, enumeration name, their difference, stray payloads, own payload. -/
namespace DoubleDispatch.Catalog
open Text (Identifier isIdentifier holdsBlank)

structure Row where
  name : String
  enumName : Option String
  category : Category
  symbol : Option String
  function : Option String
  deriving DecidableEq, Repr

def Row.payload (row : Row) : PayloadField → Option String
  | .symbol => row.symbol
  | .function => row.function

/-- An operator spelling: any text without blanks, but not the empty one. -/
structure Symbol where
  text : String
  nonempty : text ≠ ""
  compact : holdsBlank text = false
  deriving DecidableEq, Repr

inductive Kind where
  | infixArithmetic (symbol : Symbol)
  | prefixArithmetic (symbol : Symbol)
  | elementwiseFunction (function : Identifier)
  | placeholderUnary
  | placeholderBinary
  | externalUnary
  | externalBinary
  | selectResult
  deriving DecidableEq, Repr

namespace Kind

def category : Kind → Category
  | .infixArithmetic _ => .infixArithmetic
  | .prefixArithmetic _ => .prefixArithmetic
  | .elementwiseFunction _ => .elementwiseFunction
  | .placeholderUnary => .placeholderUnary
  | .placeholderBinary => .placeholderBinary
  | .externalUnary => .externalUnary
  | .externalBinary => .externalBinary
  | .selectResult => .selectResult

def symbol? : Kind → Option String
  | .infixArithmetic symbol | .prefixArithmetic symbol => some symbol.text
  | _ => none

def function? : Kind → Option String
  | .elementwiseFunction function => some function.text
  | _ => none

/-- The symbol or the function, whichever the kind has. -/
def payload? (kind : Kind) : Option String := kind.symbol?.or kind.function?

end Kind

structure Operation where
  name : Identifier
  enumName : Identifier
  distinct : enumName.text ≠ name.text
  kind : Kind
  deriving DecidableEq, Repr

def checkIdentifier (operation : String) (part : Part) (value : String) :
    Except Error Identifier :=
  if value = "" then .error (.invalidIdentifier operation part value .empty)
  else if valid : isIdentifier value = true then .ok ⟨value, valid⟩
  else .error (.invalidIdentifier operation part value .notIdentifier)

def checkSymbol (operation value : String) (nonempty : value ≠ "") : Except Error Symbol :=
  if blank : holdsBlank value = true then
    .error (.invalidIdentifier operation (.payload .symbol) value .holdsBlank)
  else .ok ⟨value, nonempty, by simpa using blank⟩

namespace Row

def defaultEnumName (name : String) : String := name ++ "_ENUM"

def resolvedEnumName (row : Row) : String := row.enumName.getD (defaultEnumName row.name)

/-- Present counts, also when the text is empty. -/
def checkStray (row : Row) (field : PayloadField) : Except Error Unit :=
  if (row.payload field).isSome ∧ row.category.payloadField ≠ some field then
    .error (.unexpectedField row.name row.category field)
  else .ok ()

/-- The text of a payload the category needs; an empty text counts as none. -/
def requirePayload (row : Row) (field : PayloadField) :
    Except Error { text : String // text ≠ "" } :=
  match row.payload field with
  | none => .error (.missingField row.name row.category field)
  | some text =>
    if empty : text = "" then .error (.missingField row.name row.category field)
    else .ok ⟨text, empty⟩

def checkKind (row : Row) : Except Error Kind :=
  match row.category with
  | .infixArithmetic => do
    let text ← row.requirePayload .symbol
    return .infixArithmetic (← checkSymbol row.name text.val text.property)
  | .prefixArithmetic => do
    let text ← row.requirePayload .symbol
    return .prefixArithmetic (← checkSymbol row.name text.val text.property)
  | .elementwiseFunction => do
    let text ← row.requirePayload .function
    return .elementwiseFunction (← checkIdentifier row.name (.payload .function) text.val)
  | .placeholderUnary => .ok .placeholderUnary
  | .placeholderBinary => .ok .placeholderBinary
  | .externalUnary => .ok .externalUnary
  | .externalBinary => .ok .externalBinary
  | .selectResult => .ok .selectResult

end Row

namespace Operation

def ofRow (row : Row) : Except Error Operation := do
  let name ← checkIdentifier row.name .name row.name
  let enumName ← checkIdentifier row.name .enumName row.resolvedEnumName
  if same : enumName.text = name.text then
    throw (.enumNameEqualsName row.name)
  else
    row.checkStray .symbol
    row.checkStray .function
    return ⟨name, enumName, same, ← row.checkKind⟩

/-- The operation written back, with its enumeration name spelled out. -/
def toRow (op : Operation) : Row :=
  ⟨op.name.text, some op.enumName.text, op.kind.category, op.kind.symbol?, op.kind.function?⟩

def category (op : Operation) : Category := op.kind.category

def arity (op : Operation) : Category.Arity := op.category.arity

def runner (op : Operation) : Identifier := op.name.extend "Runner" (by decide)

def runnerName (op : Operation) : String := op.runner.text

/-- The function name that travels with the enumeration. -/
def functionTag (op : Operation) : Option String := op.kind.function?

end Operation
end DoubleDispatch.Catalog
