import DoubleDispatch.Emit.Basic
import DoubleDispatch.Storage.Pathname

/-! Settings of a run: the names stamped into what is written, and the catalogue file to use. -/
namespace DoubleDispatch
open Storage (Pathname)

structure Settings where
  names : Emit.Names
  catalog : Option Pathname
  source : Option Pathname
  deriving DecidableEq, Repr

namespace Settings

def standard : Settings := ⟨Emit.Names.standard, none, none⟩

/- A relative catalogue path starts from the directory of the file that names it. -/
def catalogPath (settings : Settings) : Option Pathname :=
  settings.catalog.map (fun path =>
    match settings.source.bind Pathname.parent? with
    | some directory => if path.isAbsolute then path else directory.join path
    | none => path)

end Settings
end DoubleDispatch
