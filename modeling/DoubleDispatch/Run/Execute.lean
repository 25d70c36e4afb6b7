import DoubleDispatch.Run.Invocation
import DoubleDispatch.Catalog.Reference
import DoubleDispatch.Input.File
import DoubleDispatch.Storage.Replace

/-! One run: settings, catalogues, generator, artifact, file. Nothing is written before the whole
text is there. -/
namespace DoubleDispatch.Run
open Catalog (Operations Terminals)
open Emit (Generator)
open Storage (Pathname ReplaceError Attempt)

inductive Error where
  | usage
  | settings (error : Input.Error)
  | listing (error : Input.Error)
  | catalog (error : Catalog.Error)
  | emission (error : Emit.Error)
  | output (path : Pathname) (error : ReplaceError)
  deriving DecidableEq, Repr

def Error.message : Error → String
  | .usage => "Usage error: exactly one artifact flag must be given"
  | .settings error => "Configuration error: " ++ error.message
  | .listing error => "Catalog error: " ++ error.message
  | .catalog error => "Catalog error: " ++ error.message
  | .emission error => "Synthesis error: " ++ error.message
  | .output path error =>
      "Failed to write output file '" ++ path.text ++ "': " ++ error.message

def Error.detail : Error → Option String
  | .settings error => error.detail
  | .listing error => error.detail
  | _ => none

def Error.exitCode : Error → Nat
  | .usage => 2
  | _ => 1

def liftError (wrap : ε → Error) : Except ε α → Attempt Error α
  | .ok value => pure value
  | .error error => throw (wrap error)

def catalogs : Option Pathname → Attempt Error (Operations × Terminals)
  | some path => do
    let listing ← (Input.listingFile path).adapt Error.listing
    liftError .catalog listing.catalogs
  | none => do
    let operations ← liftError .catalog Catalog.referenceOperations
    return (operations, Terminals.reference)

/- The text that an invocation asks for, and nothing written yet. -/
def Invocation.text (invocation : Invocation) : Attempt Error String := do
  let artifact ← match invocation.artifact? with
    | some artifact => pure artifact
    | none => throw .usage
  let settings ← (Input.settings invocation.settings).adapt Error.settings
  let (operations, terminals) ← catalogs (invocation.catalog.or settings.catalogPath)
  let generator ← liftError .emission (Generator.make operations terminals settings.names)
  liftError .emission (generator.artifact artifact)

def Invocation.execute (invocation : Invocation) : Attempt Error Unit := do
  let text ← invocation.text
  (Storage.replaceFile invocation.output text).adapt (Error.output invocation.output)

end DoubleDispatch.Run
