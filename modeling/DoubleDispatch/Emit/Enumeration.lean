import DoubleDispatch.Emit.Basic
import DoubleDispatch.Json.Writer

/-! The enumeration of operations and its three texts. All of them are written from one table, in
which the ordinal of an entry is its position in the catalogue. -/
namespace DoubleDispatch.Emit
open Catalog (Category Operation Operations)
open Template (Fragment)

structure Enumerated where
  ordinal : Nat
  enumName : String
  name : String
  category : Category
  functionTag : Option String
  deriving DecidableEq, Repr

structure Enumeration where
  entries : List Enumerated
  deriving DecidableEq, Repr

def Enumerated.of (entry : Operation × Nat) : Enumerated :=
  ⟨entry.2, entry.1.enumName.text, entry.1.name.text, entry.1.category, entry.1.functionTag⟩

namespace Enumeration

def ofOperations (ops : Operations) : Enumeration := ⟨ops.entries.zipIdx.map Enumerated.of⟩

def size (e : Enumeration) : Nat := e.entries.length

def ordinalOf? (e : Enumeration) (enumName : String) : Option Nat :=
  (e.entries.find? (fun entry => entry.enumName == enumName)).map Enumerated.ordinal

end Enumeration

namespace Enumerated

/- The tag in double quotes; without a tag the given word for none. -/
def tagLiteral (entry : Enumerated) (none : String) : String :=
  match entry.functionTag with
  | some tag => "\"" ++ tag ++ "\""
  | Option.none => none

def headerEntry (entry : Enumerated) : Fragment :=
  ((Fragment.of .enumHeaderEntry).set "enumname" entry.enumName).set "ordinal"
    (Decimal.text entry.ordinal)

def headerTag (entry : Enumerated) : Fragment :=
  ((Fragment.of .enumHeaderTag).set "enumname" entry.enumName).set "tag_literal"
    (entry.tagLiteral "nullptr")

def javaEntry (entry : Enumerated) : Fragment :=
  (((Fragment.of .enumJavaEntry).set "enumname" entry.enumName).set "ordinal"
    (Decimal.text entry.ordinal)).set "tag_literal" (entry.tagLiteral "null")

def document (entry : Enumerated) : Document :=
  .table
    [("ordinal", .ofNat entry.ordinal), ("enum_name", .string entry.enumName),
     ("name", .string entry.name), ("category", .string entry.category.name),
     ("function_tag", .ofOption .string entry.functionTag)]

end Enumerated

namespace Enumeration

def header (e : Enumeration) (names : Names) : Except Error String := do
  let enumerators ← fillAll (e.entries.map Enumerated.headerEntry)
  let tags ← fillAll (e.entries.map Enumerated.headerTag)
  fill (((((Fragment.of .enumHeader).set "namespace" names.namespaceName).set "count"
    (Decimal.text e.size)).set "entries" enumerators).set "function_tags" tags)

def java (e : Enumeration) (names : Names) : Except Error String := do
  let enumerators ← fillAll (e.entries.map Enumerated.javaEntry)
  fill (((Fragment.of .enumJava).set "package" names.javaPackage).set "entries" enumerators)

def manifest (e : Enumeration) : Document :=
  .table [("operations", .list (e.entries.map Enumerated.document))]

def json (e : Enumeration) : String := Json.pretty e.manifest ++ "\n"

end Enumeration
end DoubleDispatch.Emit
