import DoubleDispatch.Document
import DoubleDispatch.Decimal.Shortest
import DoubleDispatch.Text.Quoted

/-! How a document can fail to fit a schema, and the sentence that says so. The two dialects are
the two sources of documents; they differ in a few words and in how numbers are set. -/
namespace DoubleDispatch.Schema
open Decimal (Binary64)
open Text (quoted ticked)

inductive Dialect where
  | toml
  | json
  deriving DecidableEq, Repr

/- What a value of the wrong type looked like. -/
inductive Found where
  | null
  | boolean (value : Bool)
  | integer (value : Int)
  | float (value : Binary64)
  | string (value : String)
  | sequence
  | map
  deriving DecidableEq, Repr

def Found.of : Document → Found
  | .null => .null
  | .boolean value => .boolean value
  | .integer value => .integer value
  | .float value => .float value
  | .string value => .string value
  | .moment _ => .map
  | .list _ => .sequence
  | .sections _ => .sequence
  | .table _ => .map

def floatStyle : Dialect → Decimal.Style
  | .toml => Decimal.positionalStyle
  | .json => Decimal.exponentStyle

def Found.text (dialect : Dialect) : Found → String
  | .null => "null"
  | .boolean value => "boolean " ++ ticked (if value then "true" else "false")
  | .integer value => "integer " ++ ticked (Decimal.signedText value)
  | .float value => "floating point " ++ ticked (value.text (floatStyle dialect))
  | .string value => "string " ++ quoted value
  | .sequence => "sequence"
  | .map => "map"

inductive Emptiness where
  | list
  | table
  deriving DecidableEq, Repr

def Emptiness.text : Emptiness → String
  | .list => "array"
  | .table => "table"

inductive Mismatch where
  | missingField (name : String)
  | repeatedField (name : String)
  | unknownField (name : String) (known : List String)
  | unknownVariant (name : String) (known : List String)
  | wrongType (found : Found) (expected : String)
  | tooShort (count : Nat) (label : String) (fields : Nat)
  | surplus (count : Nat)
  | variantType
  | variantEmpty
  | variantCrowded
  | variantMap
  | contentNotEmpty (expected : Emptiness)
  | contentType (found : String)
  deriving DecidableEq, Repr

def oneOf : List String → String
  | [a] => ticked a
  | [a, b] => ticked a ++ " or " ++ ticked b
  | names => "one of " ++ String.intercalate ", " (names.map ticked)

def Mismatch.message (dialect : Dialect) : Mismatch → String
  | .missingField name => "missing field " ++ ticked name
  | .repeatedField name => "duplicate field " ++ ticked name
  | .unknownField name known => "unknown field " ++ ticked name ++ ", expected " ++ oneOf known
  | .unknownVariant name known =>
      "unknown variant " ++ ticked name ++ ", expected " ++ oneOf known
  | .wrongType found expected => "invalid type: " ++ found.text dialect ++ ", expected " ++ expected
  | .tooShort count label fields =>
      "invalid length " ++ Decimal.text count ++ ", expected " ++ label ++ " with " ++
        Decimal.text fields ++ (if fields = 1 then " element" else " elements")
  | .surplus count =>
      "invalid length " ++ Decimal.text count ++ ", expected fewer elements in array"
  | .variantType => "wanted string or table"
  | .variantEmpty => "wanted exactly 1 element, found 0 elements"
  | .variantCrowded => "wanted exactly 1 element, more than 1 element"
  | .variantMap => "invalid value: map, expected map with a single key"
  | .contentNotEmpty expected => "expected empty " ++ expected.text
  | .contentType found => "expected table, found " ++ found

end DoubleDispatch.Schema
