import DoubleDispatch.Emit.Generator
import DoubleDispatch.Storage.Pathname

/-! What one run is asked to do. -/
namespace DoubleDispatch.Run
open Emit (Artifact)
open Storage (Pathname)

structure Invocation where
  artifacts : List Artifact
  output : Pathname
  catalog : Option Pathname
  settings : Option Pathname
  verbosity : Nat
  quiet : Bool
  deriving DecidableEq, Repr

/- The artifact that was asked for, if it is one only. -/
def onlyArtifact (artifacts : List Artifact) : Option Artifact :=
  match Artifact.all.filter (· ∈ artifacts) with
  | [artifact] => some artifact
  | _ => none

def Invocation.artifact? (invocation : Invocation) : Option Artifact :=
  onlyArtifact invocation.artifacts

/- The least severe messages to be shown. -/
inductive Level where
  | error
  | warn
  | info
  | debug
  | trace
  deriving DecidableEq, Repr

def Level.name : Level → String
  | .error => "error"
  | .warn => "warn"
  | .info => "info"
  | .debug => "debug"
  | .trace => "trace"

def level (verbosity : Nat) (quiet : Bool) : Level :=
  if quiet then .error
  else
    match verbosity with
    | 0 => .warn
    | 1 => .info
    | 2 => .debug
    | _ => .trace

def Invocation.level (invocation : Invocation) : Level :=
  Run.level invocation.verbosity invocation.quiet

end DoubleDispatch.Run
