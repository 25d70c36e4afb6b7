import DoubleDispatch.Emit.Runners
import DoubleDispatch.Emit.Holders
import DoubleDispatch.Emit.Enumeration
import DoubleDispatch.Emit.Construction

/-! The artifacts, and the generator that writes them. A generator exists only for catalogues that
fit together: every terminal type that an overload needs is in the terminal catalogue. -/
namespace DoubleDispatch.Emit
open Catalog (Operations Terminals)

inductive Artifact where
  | runnersHeader
  | runnersSource
  | dispatchHeader
  | dispatchSource
  | expressionHeader
  | expressionSource
  | numericHeader
  | numericSource
  | enumHeader
  | enumJava
  | enumJson
  | constructionSource
  deriving DecidableEq, Repr

namespace Artifact

def all : List Artifact :=
  [.runnersHeader, .runnersSource, .dispatchHeader, .dispatchSource, .expressionHeader,
   .expressionSource, .numericHeader, .numericSource, .enumHeader, .enumJava, .enumJson,
   .constructionSource]

/-- The conventional name of the file in the source tree of the runtime. -/
def fileName : Artifact → String
  | .runnersHeader => "runners.hh"
  | .runnersSource => "runners.cc"
  | .dispatchHeader => "dispatch.hh"
  | .dispatchSource => "dispatch.cc"
  | .expressionHeader => "expression.hh"
  | .expressionSource => "expression.cc"
  | .numericHeader => "numeric.hh"
  | .numericSource => "numeric.cc"
  | .enumHeader => "exprenum.hh"
  | .enumJava => "ExprTypeEnum.java"
  | .enumJson => "exprenum.json"
  | .constructionSource => "createexpr.cc"

end Artifact

structure Generator where
  operations : Operations
  terminals : Terminals
  names : Names
  accepted : checkTerminals operations terminals = .ok ()

namespace Generator

def make (ops : Operations) (terminals : Terminals) (names : Names) : Except Error Generator :=
  match accepted : checkTerminals ops terminals with
  | .error error => .error (.catalog error)
  | .ok () => .ok ⟨ops, terminals, names, accepted⟩

def enumeration (g : Generator) : Enumeration := .ofOperations g.operations

def artifact (g : Generator) : Artifact → Except Error String
  | .runnersHeader => Emit.runnersHeader g.operations g.names
  | .runnersSource => Emit.runnersSource g.operations g.names
  | .dispatchHeader => Emit.dispatchHeader g.operations g.terminals g.names
  | .dispatchSource => Emit.dispatchSource g.operations g.terminals g.names
  | .expressionHeader => Emit.expressionHeader g.operations g.names
  | .expressionSource => Emit.expressionSource g.operations g.names
  | .numericHeader => Emit.numericHeader g.operations g.names
  | .numericSource => Emit.numericSource g.operations g.names
  | .enumHeader => g.enumeration.header g.names
  | .enumJava => g.enumeration.java g.names
  | .enumJson => .ok g.enumeration.json
  | .constructionSource => Emit.constructionSource g.operations g.terminals g.names

end Generator
end DoubleDispatch.Emit
