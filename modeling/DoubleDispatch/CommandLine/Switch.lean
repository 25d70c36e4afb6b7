import DoubleDispatch.Emit.Generator

/-! The names a command line may use. A switch stands for itself or is followed by a value. -/
namespace DoubleDispatch.CommandLine
open Emit (Artifact)

inductive Place where
  | output
  | catalog
  | settings
  deriving DecidableEq, Repr

inductive Switch where
  | artifact (artifact : Artifact)
  | verbose
  | quiet
  | help
  | version
  | value (place : Place)
  deriving DecidableEq, Repr

def artifactNames : List (String × Artifact) :=
  [("runners-hh", .runnersHeader), ("runners-cc", .runnersSource),
   ("dispatch-hh", .dispatchHeader), ("dispatch-cc", .dispatchSource),
   ("expression-hh", .expressionHeader), ("expression-cc", .expressionSource),
   ("numeric-hh", .numericHeader), ("numeric-cc", .numericSource),
   ("exprenum-hh", .enumHeader), ("exprenum-java", .enumJava), ("exprenum-json", .enumJson),
   ("createexpr-cc", .constructionSource)]

def longNames : List (String × Switch) :=
  artifactNames.map (fun entry => (entry.1, .artifact entry.2)) ++
    [("output", .value .output), ("catalog", .value .catalog), ("config", .value .settings),
     ("verbose", .verbose), ("quiet", .quiet), ("help", .help), ("version", .version)]

def shortNames : List (Char × Switch) :=
  [('o', .value .output), ('c', .value .settings), ('v', .verbose), ('q', .quiet), ('h', .help),
   ('V', .version)]

end DoubleDispatch.CommandLine
