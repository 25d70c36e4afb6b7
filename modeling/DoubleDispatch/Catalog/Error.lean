import DoubleDispatch.Catalog.Category
import DoubleDispatch.Catalog.Terminal

/-! Why rows, operations or terminals are refused. Every error is a cause; its wording is in
`Error.message` alone. -/
namespace DoubleDispatch.Catalog

/-- The text of a row that was meant to be an identifier or a symbol. -/
inductive Part where
  | name
  | enumName
  | payload (field : PayloadField)
  deriving DecidableEq, Repr

def Part.text : Part → String
  | .name => "name"
  | .enumName => "enum name"
  | .payload field => field.name

inductive Defect where
  | empty
  | notIdentifier
  | holdsBlank
  deriving DecidableEq, Repr

def Defect.text : Defect → String
  | .empty => "must not be empty"
  | .notIdentifier => "must match [A-Za-z_][A-Za-z0-9_]*"
  | .holdsBlank => "must not contain whitespace"

inductive Entries where
  | operation
  | terminal
  deriving DecidableEq, Repr

def Entries.text : Entries → String
  | .operation => "operation"
  | .terminal => "terminal"

inductive Error where
  | missingField (operation : String) (category : Category) (field : PayloadField)
  | unexpectedField (operation : String) (category : Category) (field : PayloadField)
  | invalidIdentifier (operation : String) (part : Part) (value : String) (defect : Defect)
  | enumNameEqualsName (operation : String)
  | duplicateEnumName (identifier : String) (first second : Nat)
  | duplicateName (identifier : String) (first second : Nat)
  | identifierClash (identifier : String) (first second : Nat)
  | duplicateTerminal (terminal : Terminal) (first second : Nat)
  | missingTerminal (operation : String) (terminal : Terminal)
  | empty (entries : Entries)
  deriving DecidableEq, Repr

def atPositions (first second : Nat) : String :=
  " at positions " ++ toString first ++ " and " ++ toString second

def Error.message : Error → String
  | .missingField operation category field =>
      "Missing required field '" ++ field.name ++ "' for " ++ category.name ++ " operation " ++
        operation
  | .unexpectedField operation category field =>
      "Unexpected field '" ++ field.name ++ "' for " ++ category.name ++ " operation " ++ operation
  | .invalidIdentifier operation part value defect =>
      "Invalid " ++ part.text ++ " '" ++ value ++ "' for operation " ++ operation ++ ": " ++
        defect.text
  | .enumNameEqualsName operation =>
      "Operation " ++ operation ++ " uses its own name as enum name"
  | .duplicateEnumName identifier first second =>
      "Duplicate enum name '" ++ identifier ++ "'" ++ atPositions first second
  | .duplicateName identifier first second =>
      "Duplicate operation name '" ++ identifier ++ "'" ++ atPositions first second
  | .identifierClash identifier first second =>
      "Identifier '" ++ identifier ++ "' is used by the operations" ++ atPositions first second
  | .duplicateTerminal terminal first second =>
      "Duplicate terminal " ++ terminal.display ++ atPositions first second
  | .missingTerminal operation terminal =>
      "Operation " ++ operation ++ " needs terminal " ++ terminal.display ++
        " which is not in the terminal catalog"
  | .empty entries => "The " ++ entries.text ++ " catalog is empty"

end DoubleDispatch.Catalog
