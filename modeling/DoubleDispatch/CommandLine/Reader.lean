import DoubleDispatch.CommandLine.Switch
import DoubleDispatch.Run.Invocation

/-! Reading a command line from left to right. A switch that needs a value waits for it; the
argument that follows is the value unless it is a switch itself. A value that stands on its own is
judged only when the next switch, or the end, shows that it is all. What the arguments say together
is checked last. -/
namespace DoubleDispatch.CommandLine
open Emit (Artifact)
open Run (Invocation)

/- Why a command line starts no run. Asking for help or for the version is no mistake. -/
inductive Refusal where
  | help
  | version
  | unknownArgument
  | conflict
  | invalidValue
  | surplusValue
  | missingArgument
  deriving DecidableEq, Repr

def Refusal.exitCode : Refusal → Nat
  | .help | .version => 0
  | _ => 2

/- What has been said so far. -/
structure Said where
  artifacts : List Artifact
  values : List (Place × String)
  verbosity : Nat
  quiet : Bool
  deriving DecidableEq, Repr

def Said.nothing : Said := ⟨[], [], 0, false⟩

def verbosityLimit : Nat := 255

def Said.value? (said : Said) (place : Place) : Option String := said.values.lookup place

def Said.addValue (said : Said) (place : Place) (text : String) : Except Refusal Said :=
  if (said.value? place).isSome then .error .conflict
  else if text.isEmpty then .error .invalidValue
  else .ok { said with values := said.values ++ [(place, text)] }

/- A switch without a value. -/
def Said.add (said : Said) : Switch → Except Refusal Said
  | .artifact artifact =>
    if artifact ∈ said.artifacts then .error .conflict
    else .ok { said with artifacts := said.artifacts ++ [artifact] }
  | .verbose => .ok { said with verbosity := min (said.verbosity + 1) verbosityLimit }
  | .quiet => if said.quiet then .error .conflict else .ok { said with quiet := true }
  | .help => .error .help
  | .version => .error .version
  | .value _ => .error .invalidValue

/- What has been said, and the last switch with the value it has got, while that is not judged. -/
structure Progress where
  said : Said
  pending : Option (Place × Option String)
  deriving DecidableEq, Repr

def Progress.of (said : Said) : Progress := ⟨said, none⟩

def Progress.settled (progress : Progress) : Except Refusal Said :=
  match progress.pending with
  | none => .ok progress.said
  | some (_, none) => .error .invalidValue
  | some (place, some text) => progress.said.addValue place text

/- A switch with the value attached to it. -/
def Progress.attach (progress : Progress) (place : Place) (text : String) :
    Except Refusal Progress := do
  return .of (← (← progress.settled).addValue place text)

/- A switch whose value is still to come. -/
def Progress.await (progress : Progress) (place : Place) : Except Refusal Progress := do
  return ⟨← progress.settled, some (place, none)⟩

def Progress.add (progress : Progress) (switch : Switch) : Except Refusal Progress := do
  return .of (← (← progress.settled).add switch)

/- The name of a long switch, and the value written behind an equality sign. -/
def splitName (argument : List Char) : String × Option String :=
  let name := String.ofList (argument.takeWhile (· != '='))
  match argument.dropWhile (· != '=') with
  | [] => (name, none)
  | _ :: value => (name, some (String.ofList value))

def readLong (progress : Progress) (argument : List Char) : Except Refusal Progress :=
  match splitName argument with
  | (name, attached) =>
    match longNames.lookup name, attached with
    | none, _ => .error .unknownArgument
    | some (.value place), some text => progress.attach place text
    | some (.value place), none => progress.await place
    | some _, some _ => .error .surplusValue
    | some switch, none => progress.add switch

/- Short switches behind one dash; one that takes a value takes the rest as its value. -/
def readShort (progress : Progress) : List Char → Except Refusal Progress
  | [] => .ok progress
  | c :: rest =>
    match shortNames.lookup c with
    | none => .error .unknownArgument
    | some (.value place) =>
      match rest with
      | [] => progress.await place
      | '=' :: value => progress.attach place (String.ofList value)
      | value => progress.attach place (String.ofList value)
    | some switch => do readShort (← progress.add switch) rest

def readArgument (progress : Progress) (argument : String) : Except Refusal Progress :=
  match argument.toList with
  | '-' :: '-' :: name => readLong progress name
  | '-' :: c :: rest => readShort progress (c :: rest)
  | _ =>
    match progress.pending with
    | some (place, none) => .ok ⟨progress.said, some (place, some argument)⟩
    | _ => .error .unknownArgument

/- Two dashes end the switches, and no other argument is known. -/
def readArguments (progress : Progress) : List String → Except Refusal Said
  | [] => progress.settled
  | argument :: rest =>
    if argument = "--" then
      if rest.isEmpty then progress.settled else .error .unknownArgument
    else do readArguments (← readArgument progress argument) rest

def Said.invocation (said : Said) : Except Refusal Invocation :=
  if (said.quiet ∧ 0 < said.verbosity) ∨ 1 < said.artifacts.length then .error .conflict
  else
    match said.artifacts, said.value? .output with
    | _ :: _, some output =>
      .ok ⟨said.artifacts, ⟨output⟩, (said.value? .catalog).map .mk, (said.value? .settings).map .mk,
        said.verbosity, said.quiet⟩
    | _, _ => .error .missingArgument

def read (arguments : List String) : Except Refusal Invocation := do
  (← readArguments (.of .nothing) arguments).invocation

end DoubleDispatch.CommandLine
