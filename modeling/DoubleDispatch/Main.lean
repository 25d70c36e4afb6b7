import DoubleDispatch.CommandLine.Reader
import DoubleDispatch.Run.Execute

/-! The program: a command line is read, and the script of its run is carried out on the machine. -/
namespace DoubleDispatch.Machine
open Storage (Pathname Fault Request Script)

/- The number and the words of the system behind an error, if it has them. -/
def systemCause : IO.Error → Option (Nat × String)
  | .alreadyExists _ code words | .inappropriateType _ code words | .invalidArgument _ code words
  | .permissionDenied _ code words | .resourceExhausted _ code words
  | .noSuchThing _ code words => some (code.toNat, words)
  | .noFileOrDirectory _ code words | .interrupted _ code words => some (code.toNat, words)
  | .otherError code words | .resourceBusy code words | .resourceVanished code words
  | .unsupportedOperation code words | .hardwareFault code words
  | .unsatisfiedConstraints code words | .illegalOperation code words
  | .protocolError code words | .timeExpired code words => some (code.toNat, words)
  | .unexpectedEof | .userError _ => none

def faultOf (error : IO.Error) : Fault :=
  match systemCause error with
  | some (2, _) => .noSuchEntry
  | some (16, _) => .busy
  | some (17, _) => .alreadyExists
  | some (20, _) => .notDirectory
  | some (21, _) => .isDirectory
  | some (36, _) => .nameTooLong
  | some (code, words) => .other code words
  | none => .other 5 error.toString

/- A path is checked before the system sees it. -/
def guarded (path : Pathname) (step : IO α) : IO (Except Fault α) :=
  match path.check with
  | .error fault => pure (.error fault)
  | .ok _ => do
    match ← step.toBaseIO with
    | .ok value => return .ok value
    | .error error => return .error (faultOf error)

def hasType (path : Pathname) (type : IO.FS.FileType) : IO Bool := do
  match ← guarded path (System.mkFilePath [path.text]).metadata with
  | .ok found => return found.type == type
  | .error _ => return false

def decoded : Except Fault ByteArray → Except Fault String
  | .error fault => .error fault
  | .ok content =>
    match String.fromUTF8? content with
    | some text => .ok text
    | none => .error .notText

def writeWhole (path : Pathname) (mode : IO.FS.Mode) (text : String) : IO Unit := do
  let handle ← IO.FS.Handle.mk path.text mode
  handle.putStr text
  handle.flush

def perform : Request β → IO β
  | .workingDirectory => do
    match ← IO.currentDir.toBaseIO with
    | .ok directory => return .ok ⟨directory.toString⟩
    | .error error => return .error (faultOf error)
  | .homeDirectory => do
    match ← IO.getEnv "HOME" with
    | some text => return if text.isEmpty then none else some ⟨text⟩
    | none => return none
  | .isFile path => hasType path .file
  | .isDirectory path => hasType path .dir
  | .readText path => do return decoded (← guarded path (IO.FS.readBinFile path.text))
  | .makeDirectory path => guarded path (IO.FS.createDir path.text)
  | .createFile path => guarded path (writeWhole path .writeNew "")
  | .writeText path text => guarded path (writeWhole path .write text)
  | .moveFile source target => guarded target (IO.FS.rename source.text target.text)
  | .removeFile path => guarded path (IO.FS.removeFile path.text)

def carryOut : Script α → IO α
  | .done result => pure result
  | .ask request next => do carryOut (next (← perform request))

end DoubleDispatch.Machine

namespace DoubleDispatch.CommandLine

def usage : String :=
  "Usage: rdag-gen --output FILE [--catalog FILE] [--config FILE] [-v | -q] ARTIFACT\n\nArtifacts:\n" ++
    String.join (artifactNames.map (fun entry => "  --" ++ entry.1 ++ "\n"))

def Refusal.message : Refusal → String
  | .help => usage
  | .version => "rdag-gen\n"
  | .unknownArgument => "error: unexpected argument\n\n" ++ usage
  | .conflict => "error: an argument cannot be used together with another one\n\n" ++ usage
  | .invalidValue => "error: a value is required\n\n" ++ usage
  | .surplusValue => "error: unexpected value\n\n" ++ usage
  | .missingArgument => "error: a required argument was not provided\n\n" ++ usage

end DoubleDispatch.CommandLine

def main (arguments : List String) : IO UInt32 := do
  match DoubleDispatch.CommandLine.read arguments with
  | .error refusal =>
    if refusal.exitCode = 0 then IO.print refusal.message else IO.eprint refusal.message
    return UInt32.ofNat refusal.exitCode
  | .ok invocation =>
    match ← DoubleDispatch.Machine.carryOut (ExceptT.run invocation.execute) with
    | .ok _ => return 0
    | .error error =>
      let detail := (error.detail.map (": " ++ ·)).getD ""
      IO.eprintln ("error: " ++ error.message ++ detail)
      return UInt32.ofNat error.exitCode
