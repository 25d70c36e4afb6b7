import DoubleDispatch.Storage.Fault

/-! What a run asks of the storage, as data. A script is a sequence of such requests in which each
answer decides how it goes on; who carries it out is left open, so that one and the same script
runs on a real machine and in a proof. -/
namespace DoubleDispatch.Storage

inductive Request : Type → Type where
  | workingDirectory : Request (Except Fault Pathname)
  | homeDirectory : Request (Option Pathname)
  | isFile (path : Pathname) : Request Bool
  | isDirectory (path : Pathname) : Request Bool
  | readText (path : Pathname) : Request (Except Fault String)
  | makeDirectory (path : Pathname) : Request (Except Fault Unit)
  | createFile (path : Pathname) : Request (Except Fault Unit)
  | writeText (path : Pathname) (text : String) : Request (Except Fault Unit)
  | moveFile (source target : Pathname) : Request (Except Fault Unit)
  | removeFile (path : Pathname) : Request (Except Fault Unit)

inductive Script (α : Type) : Type 1 where
  | done (result : α)
  | ask {β : Type} (request : Request β) (next : β → Script α)

namespace Script

def bind : Script α → (α → Script β) → Script β
  | .done result, f => f result
  | .ask request next, f => .ask request (fun answer => (next answer).bind f)

instance : Monad Script where
  pure := .done
  bind := Script.bind

end Script

def Request.script (request : Request α) : Script α := .ask request .done

/- A script that may give up with an error. -/
abbrev Attempt (ε α : Type) := ExceptT ε Script α

/- The answer of a request, its fault made the error of an attempt. -/
def Request.attempt (request : Request (Except Fault α)) (wrap : Fault → ε) : Attempt ε α :=
  ExceptT.mk (request.script.bind (fun answer => .done (answer.mapError wrap)))

end DoubleDispatch.Storage
