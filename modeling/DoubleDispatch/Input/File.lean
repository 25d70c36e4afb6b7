import DoubleDispatch.Input.Text
import DoubleDispatch.Storage.Script

/-! Inputs from files, and where settings are looked for. A file that is named must be there; else
the nearest settings file above the working directory counts, then the one at home, and without
either of them the standard settings hold. -/
namespace DoubleDispatch.Input
open Storage (Pathname Request Script Attempt)
open Catalog (Listing)

def readFile (subject : Subject) (decode : String → Except Flaw α) (path : Pathname) :
    Attempt Error α := do
  let text ← (Request.readText path).attempt (Error.unreadable subject path)
  match decode text with
  | .ok value => pure value
  | .error flaw => throw (.flawedFile subject path flaw)

def listingFile (path : Pathname) : Attempt Error Listing := readFile .listing listingText path

def settingsFile (path : Pathname) : Attempt Error Settings := do
  let settings ← readFile .settings settingsText path
  return { settings with source := some path }

/- The settings file of a directory. -/
def settingsIn (directory : Pathname) : Pathname := (directory.join ⟨".rdag"⟩).join ⟨"config.toml"⟩

def firstFile : List Pathname → Script (Option Pathname)
  | [] => pure none
  | path :: rest => do
    if ← (Request.isFile path).script then pure (some path) else firstFile rest

/- The nearest settings file in a directory or above it. -/
def projectSettings (directory : Pathname) : Script (Option Pathname) :=
  firstFile (directory.ancestors.map settingsIn)

def homeSettings : Script (Option Pathname) := do
  return (← Request.homeDirectory.script).map settingsIn

def settings (explicit : Option Pathname) : Attempt Error Settings := do
  match explicit with
  | some path => settingsFile path
  | none =>
    let directory ← Request.workingDirectory.attempt Error.noWorkingDirectory
    let found ← match ← projectSettings directory with
      | some path => pure (some path)
      | none => firstFile (← homeSettings).toList
    match found with
    | some path => settingsFile path
    | none => pure Settings.standard

end DoubleDispatch.Input
