import DoubleDispatch.Schema.Mismatch
import DoubleDispatch.Storage.Pathname
import DoubleDispatch.Storage.Fault

/-! How reading the inputs of a run can fail: a file cannot be read, or its text says nothing that
can be used. -/
namespace DoubleDispatch.Input
open Storage (Pathname Fault)

inductive Subject where
  | listing
  | settings
  deriving DecidableEq, Repr

def Subject.noun : Subject → String
  | .listing => "catalog"
  | .settings => "config"

/- What is wrong with a text. -/
inductive Flaw where
  | malformed
  | mismatch (cause : Schema.Mismatch)
  deriving DecidableEq, Repr

/- The sentence about a text that is well formed and does not fit. -/
def Flaw.detail : Flaw → Option String
  | .malformed => none
  | .mismatch cause => some (cause.message .toml)

inductive Error where
  | unreadable (subject : Subject) (path : Pathname) (fault : Fault)
  | flawedText (subject : Subject) (flaw : Flaw)
  | flawedFile (subject : Subject) (path : Pathname) (flaw : Flaw)
  | noWorkingDirectory (fault : Fault)
  deriving DecidableEq, Repr

def Error.message : Error → String
  | .unreadable subject path fault =>
      "IO failure when reading " ++ subject.noun ++ " " ++ path.text ++ ": " ++ fault.message
  | .flawedText .listing _ => "Failed to parse catalog"
  | .flawedText .settings _ => "Failed to parse TOML config"
  | .flawedFile .listing path _ => "Failed to parse catalog file " ++ path.text
  | .flawedFile .settings path _ => "Failed to parse TOML config " ++ path.text
  | .noWorkingDirectory fault => "Unable to read the working directory: " ++ fault.message

def Error.detail : Error → Option String
  | .flawedText _ flaw => flaw.detail
  | .flawedFile _ _ flaw => flaw.detail
  | _ => none

end DoubleDispatch.Input
