import DoubleDispatch.Schema.Decode
import DoubleDispatch.Catalog.Listing

/-! The schema of catalogue files, in both directions. All three records are closed, so no key an
author writes is dropped in silence. -/
namespace DoubleDispatch.Schema
open Catalog (Category Domain Shape Terminal Row Listing)

def decodeCategory (dialect : Dialect) : Document → Except Mismatch Category :=
  decodeVariant dialect Category.all Category.name

def rowRecord (dialect : Dialect) : Record where
  label := "struct OperationRecord"
  closed := true
  fields :=
    [.of "name" decodeString, .of "enum_name" (decodeOptional decodeString),
     .of "category" (decodeCategory dialect), .of "symbol" (decodeOptional decodeString),
     .of "function" (decodeOptional decodeString)]

def decodeRow (dialect : Dialect) (document : Document) : Except Mismatch Row := do
  let record := rowRecord dialect
  let (form, entries) ← record.form dialect document
  record.checkEntries [] entries
  let name ← record.required form entries "name" decodeString
  let category ← record.required form entries "category" (decodeCategory dialect)
  let enumName ← Record.withDefault entries "enum_name" none (decodeOptional decodeString)
  let symbol ← Record.withDefault entries "symbol" none (decodeOptional decodeString)
  let function ← Record.withDefault entries "function" none (decodeOptional decodeString)
  record.checkSurplus dialect document
  return ⟨name, enumName, category, symbol, function⟩

def terminalRecord (dialect : Dialect) : Record where
  label := "struct TerminalSpec"
  closed := true
  fields :=
    [.of "domain" (decodeVariant dialect Domain.all Domain.name),
     .of "shape" (decodeVariant dialect Shape.all Shape.name)]

def decodeTerminal (dialect : Dialect) (document : Document) : Except Mismatch Terminal := do
  let record := terminalRecord dialect
  let (form, entries) ← record.form dialect document
  record.checkEntries [] entries
  let domain ← record.required form entries "domain"
    (decodeVariant dialect Domain.all Domain.name)
  let shape ← record.required form entries "shape" (decodeVariant dialect Shape.all Shape.name)
  record.checkSurplus dialect document
  return ⟨domain, shape⟩

def listingRecord (dialect : Dialect) : Record where
  label := "struct CatalogFile"
  closed := true
  fields :=
    [.of "operations" (decodeList (decodeRow dialect)),
     .of "terminals" (decodeList (decodeTerminal dialect))]

def decodeListing (dialect : Dialect) (document : Document) : Except Mismatch Listing := do
  let record := listingRecord dialect
  let (_, entries) ← record.form dialect document
  record.checkEntries [] entries
  let operations ← Record.withDefault entries "operations" [] (decodeList (decodeRow dialect))
  let terminals ← Record.withDefault entries "terminals" [] (decodeList (decodeTerminal dialect))
  record.checkSurplus dialect document
  return ⟨operations, terminals⟩

def optionalEntry (name : String) : Option String → List Entry
  | none => []
  | some value => [(name, .string value)]

def encodeRow (row : Row) : Document :=
  .table ([("name", .string row.name)] ++ optionalEntry "enum_name" row.enumName ++
    [("category", .string row.category.name)] ++ optionalEntry "symbol" row.symbol ++
    optionalEntry "function" row.function)

def encodeTerminal (terminal : Terminal) : Document :=
  .table [("domain", .string terminal.domain.name), ("shape", .string terminal.shape.name)]

def encodeListing (listing : Listing) : Document :=
  .table [("operations", .list (listing.operations.map encodeRow)),
    ("terminals", .list (listing.terminals.map encodeTerminal))]

end DoubleDispatch.Schema
