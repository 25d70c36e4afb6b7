import DoubleDispatch.Catalog.Operations
import DoubleDispatch.Catalog.Terminals

/-! A catalogue file as written: rows of operations and, if wanted, terminal types. Without
terminal types the reference ones stand in. Operations are judged before terminals. -/
namespace DoubleDispatch.Catalog

structure Listing where
  operations : List Row
  terminals : List Terminal
  deriving DecidableEq, Repr

def Listing.terminalCatalog (listing : Listing) : Except Error Terminals :=
  if listing.terminals = [] then .ok .reference else Terminals.ofList listing.terminals

def Listing.catalogs (listing : Listing) : Except Error (Operations × Terminals) := do
  let operations ← Operations.ofRows listing.operations
  let terminals ← listing.terminalCatalog
  return (operations, terminals)

end DoubleDispatch.Catalog
