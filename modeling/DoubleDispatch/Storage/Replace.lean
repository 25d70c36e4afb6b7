import DoubleDispatch.Storage.Script

/-! Writing a file all at once. The text is written beside its target under a name of its own and
moved there as a whole, so the target holds the old text or the new one and nothing between. -/
namespace DoubleDispatch.Storage

inductive ReplaceError where
  | directory (path : Pathname) (fault : Fault)
  | reserving (fault : Fault)
  | staging (scratch : Pathname) (fault : Fault)
  | placing (scratch : Pathname) (fault : Fault)
  deriving DecidableEq, Repr

def ReplaceError.message : ReplaceError → String
  | .directory path fault => "Failed to create " ++ path.text ++ ": " ++ fault.message
  | .reserving fault => "Failed to create temporary file: " ++ fault.message
  | .staging scratch fault => "Failed to write " ++ scratch.text ++ ": " ++ fault.message
  | .placing scratch fault =>
      "Failed to move " ++ scratch.text ++ " into place: " ++ fault.message

/- A directory that is there already is as good as a new one. -/
def settleDirectory (path : Pathname) : Except Fault Unit → Script (Except Fault Unit)
  | .ok _ => pure (.ok ())
  | .error fault => do
    if ← (Request.isDirectory path).script then pure (.ok ()) else pure (.error fault)

/- A directory and the missing ones above it, given as the list of its ancestors. -/
def makeDirectories : List Pathname → Script (Except Fault Unit)
  | [] => pure (.error .noSuchEntry)
  | path :: above => do
    if path.isEmpty then pure (.ok ())
    else
      match ← (Request.makeDirectory path).script with
      | .error .noSuchEntry =>
        match ← makeDirectories above with
        | .error fault => pure (.error fault)
        | .ok _ => settleDirectory path (← (Request.makeDirectory path).script)
      | answer => settleDirectory path answer

/- The directory that a target lies in, made if it is missing. -/
def stagingDirectory (target : Pathname) : Attempt ReplaceError Pathname :=
  match target.parent? with
  | none => pure ⟨"."⟩
  | some parent =>
    if parent.isEmpty then pure ⟨"."⟩
    else do
      match ← makeDirectories parent.ancestors with
      | .ok _ => pure parent
      | .error fault => throw (.directory parent fault)

def scratchAttempts : Nat := 1000

def scratchName (stem : String) (attempt : Nat) : String :=
  let number := (Decimal.text attempt).toList
  "." ++ stem ++ "." ++ String.ofList (List.replicate (6 - number.length) '0' ++ number) ++ ".tmp"

/- The first scratch name that is free. -/
def reserveScratch (directory : Pathname) (stem : String) : Nat → Attempt ReplaceError Pathname
  | 0 => throw (.reserving .alreadyExists)
  | attempts + 1 => do
    let path := directory.join ⟨scratchName stem attempts⟩
    match ← (Request.createFile path).script with
    | .ok _ => pure path
    | .error .alreadyExists => reserveScratch directory stem attempts
    | .error fault => throw (.reserving fault)

def absolute (path : Pathname) : Attempt ReplaceError Pathname :=
  if path.isAbsolute then pure path
  else do
    let here ← Request.workingDirectory.attempt ReplaceError.reserving
    pure (here.join path)

/- A step that takes the scratch file away when it fails. -/
def orDiscard (scratch : Pathname) (step : Request (Except Fault Unit)) (wrap : Fault → ReplaceError) :
    Attempt ReplaceError Unit := do
  match ← step.script with
  | .ok _ => pure ()
  | .error fault => do
    let _ ← (Request.removeFile scratch).script
    throw (wrap fault)

def replaceFile (target : Pathname) (text : String) : Attempt ReplaceError Unit := do
  let directory ← absolute (← stagingDirectory target)
  let scratch ← reserveScratch directory (target.fileName?.getD "out") scratchAttempts
  orDiscard scratch (.writeText scratch text) (.staging scratch)
  orDiscard scratch (.moveFile scratch target) (.placing scratch)

end DoubleDispatch.Storage
