import DoubleDispatch.Schema.Decode
import DoubleDispatch.Settings.Basic

/-! The schema of settings files. Every entry may be left out, and entries that nobody knows are
passed over, so one file can serve several programs. -/
namespace DoubleDispatch.Schema
open Emit (Names)
open Storage (Pathname)

def namesRecord : Record where
  label := "struct EmitConfig"
  closed := false
  fields := [.of "namespace" decodeString, .of "java_package" decodeString]

def decodeNames (dialect : Dialect) (document : Document) : Except Mismatch Names := do
  let (_, entries) ← namesRecord.form dialect document
  namesRecord.checkEntries [] entries
  let standard := Names.standard
  let namespaceName ← Record.withDefault entries "namespace" standard.namespaceName decodeString
  let javaPackage ← Record.withDefault entries "java_package" standard.javaPackage decodeString
  return ⟨namespaceName, javaPackage⟩

def catalogRecord : Record where
  label := "struct CatalogConfig"
  closed := false
  fields := [.of "path" (decodeOptional decodePathText)]

def decodeCatalogPath (dialect : Dialect) (document : Document) :
    Except Mismatch (Option Pathname) := do
  let (_, entries) ← catalogRecord.form dialect document
  catalogRecord.checkEntries [] entries
  let path ← Record.withDefault entries "path" none (decodeOptional decodePathText)
  return path.map Pathname.mk

def settingsRecord (dialect : Dialect) : Record where
  label := "struct GeneratorConfig"
  closed := false
  fields := [.of "emit" (decodeNames dialect), .of "catalog" (decodeCatalogPath dialect)]

def decodeSettings (dialect : Dialect) (document : Document) : Except Mismatch Settings := do
  let record := settingsRecord dialect
  let (_, entries) ← record.form dialect document
  record.checkEntries [] entries
  let names ← Record.withDefault entries "emit" Names.standard (decodeNames dialect)
  let catalog ← Record.withDefault entries "catalog" none (decodeCatalogPath dialect)
  return ⟨names, catalog, none⟩

end DoubleDispatch.Schema
